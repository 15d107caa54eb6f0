import DaemonDialogue.Script.Builtin.Variable
import DaemonDialogue.Script.Printing.Echo

/-!
# Commands about the course of a script

Loops and functions are left, texts and files are run as scripts, and actions are set for
signals and for the end.
-/

namespace DaemonDialogue.Script.Builtin

open Act

/-- Leaves loops, or goes on with the next round of one. -/
def runBreak (goesOn : Bool) (arguments : List Text) : Act Unit := do
  let count : Option Nat := match arguments with
    | [] => some 1
    | t :: _ => (Number.count? t).filter (0 < ·)
  match count with
  | none => illegalNumber (arguments.headD [])
  | some n =>
    setStatus 0
    let n := min n (← shell).loops
    if 0 < n then setMode (if goesOn then .continuing n else .breaking n)

def runReturn (arguments : List Text) : Act Unit := do
  match arguments with
  | [] => setMode (.returning false)
  | t :: _ =>
    match Number.count? t with
    | some n =>
      setStatus n
      setMode (.returning true)
    | none => illegalNumber t

def runExit (arguments : List Text) : Act Unit := do
  match arguments with
  | [] => raise .exit
  | t :: _ =>
    match Number.count? t with
    | some n =>
      modifySelf fun p => { p with kept := some n }
      raise .exit
    | none => illegalNumber t

def runEval (f : Flags) (arguments : List Text) : Act Unit := do
  if arguments.isEmpty then setStatus 0
  else
    push (.script { strips := [⟨Printing.spaced arguments, none, false⟩], flags := { tested := f.tested } })

def scriptFile (files : File.Tree) (path name : Text) : Option Text :=
  if name.contains '/' then some name
  else (Executable.find files path name).toOption

def runSource (arguments : List Text) : Act Unit := do
  match options [] arguments with
  | .error e => fault e
  | .ok (_, []) => setStatus 0
  | .ok (_, name :: _) =>
    let s ← get
    let files := s.machine.filesOf s.self
    match scriptFile files s.self.shell.path name with
    | none => fault (name ++ ": not found".toList)
    | some path =>
      match files.read ⟨Text.toBytes path⟩ with
      | .ok bytes =>
        modifyShell fun sh => { sh with command := some path }
        push (.script { strips := [⟨Text.ofBytes bytes, none, false⟩], isFile := true })
      | .error .isADirectory => setStatus 0
      | .error .notFound | .error .notADirectory =>
        fault ("cannot open ".toList ++ path ++ ": No such file".toList)
      | .error f => fault ("cannot open ".toList ++ path ++ ": ".toList ++ f.reason.toList)

/-- Takes the place of the shell. -/
def runExec (arguments : List Text) : Act Unit := do
  match options [] arguments with
  | .error e => fault e
  | .ok (_, []) => setStatus 0
  | .ok (_, left) => push (.exec left (← shell).path)

def signalOf? (least : Nat) (t : Text) : Option Nat :=
  if !t.isEmpty && t.all Ascii.isDigit then
    let n := Ascii.digitsValue t
    if n ≤ Signal.lastFree then some n else none
  else
    let lower (t : Text) : Text := t.map Ascii.lower
    ((Signal.names.zipIdx.find? fun e => lower e.1.toList == lower t).map (·.2)).filter (least ≤ ·)

def setTraps (action : Option Text) : List Text → Act Unit
  | [] => setStatus 0
  | t :: rest => do
    match signalOf? 0 t with
    | none =>
      report ("trap: ".toList ++ t ++ ": bad trap\n".toList)
      setStatus 1
    | some n =>
      let action := if action == some ['-'] then none else action
      modifyShell fun sh => sh.putTrap n action
      setTraps action rest

/-- Sets actions for signals and the end of the shell, or lists them. -/
def runTrap (arguments : List Text) : Act Unit := do
  match options [] arguments with
  | .error e => fault e
  | .ok (_, []) => reply (← shell).trapListing 0
  | .ok (_, [t]) => setTraps none [t]
  | .ok (_, t :: rest) =>
    let isNumber : Bool := !t.isEmpty && t.all Ascii.isDigit && (signalOf? 0 t).isSome
    if isNumber then setTraps none (t :: rest) else setTraps (some t) rest

end DaemonDialogue.Script.Builtin
