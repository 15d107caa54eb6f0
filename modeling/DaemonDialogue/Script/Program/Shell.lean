import DaemonDialogue.Script.Builtin.Place
import DaemonDialogue.Script.Builtin.Variable
import DaemonDialogue.Script.Program.Work
import DaemonDialogue.Script.Redirection

/-!
# The program that runs scripts

A script is given as an argument, in a file, or as input. Settings are put on or off before it
is read.
-/

namespace DaemonDialogue.Script.Program

open Act

/-- What the options of a shell ask for, apart from its settings. -/
structure Invocation where
  inline : Bool := false
  arguments : List Text := []
  deriving Repr, Inhabited

/-- Reads the options of a shell and puts its settings; none at a fault. `fuel` bounds their
number. -/
def readInvocation : Nat → Bool → List Text → Act (Option Invocation)
  | 0, inline, _ => return some { inline }
  | fuel + 1, inline, arguments => do
    let ownLetters := ['c', 'l']
    match arguments with
    | ['-'] :: rest =>
      return some { inline, arguments := rest }
    | ['-', '-'] :: rest => return some { inline, arguments := rest }
    | (sign :: letters) :: rest =>
      if sign != '-' && sign != '+' then return some { inline, arguments }
      else
        let inline := inline || letters.contains 'c'
        match ← Builtin.putLetters (sign == '-') (letters.filter fun c => !ownLetters.contains c) rest with
        | none => return none
        | some (listing, rest) =>
          let _ ← Act.write 1 listing
          readInvocation fuel inline rest
    | _ => return some { inline, arguments }

def firstVariables : Variables :=
  let fixed : List (String × String) :=
    [("IFS", " \t\n"), ("PATH", String.ofList usualPath), ("PS1", "# "), ("PS2", "> "), ("PS4", "+ "),
      ("OPTIND", "1")]
  ⟨fixed.map fun (name, value) => (name.toList, { value := some value.toList })⟩

def firstShell (p : Process) (name : Text) (files : File.Tree) (environment : List (Text × Text)) :
    Shell :=
  let imported := environment.foldl (fun (vs : Variables) (name, value) =>
    if Text.isName name then (vs.assign name value).export_ name else vs) firstVariables
  let vs := (imported.assign "IFS".toList Shell.usualSeparators).assign "OPTIND".toList ['1']
  let vs := vs.assign "PPID".toList (Text.ofNat p.parent)
  let given := (vs.value? "PWD".toList).filter fun t =>
    t.head? == some '/' && match files.resolve ⟨Text.toBytes t⟩ with
      | .ok (place, _) => place == p.directory
      | .error _ => false
  let directory := given.getD (Builtin.pathOf p.directory)
  { name, root := p.pid, directory
    bindings := (vs.assign "PWD".toList directory).export_ "PWD".toList
    ignored := p.shell.ignored, mask := p.shell.mask }

def inputScript (prompts : Bool) : Frame :=
  .script { strips := [⟨[], none, false⟩], complete := false, input := true, isFile := true, prompts }

/-- The work of a shell that runs a text; it ends with it unless it goes on with its input. -/
def textScript (t : Text) (isFile exits : Bool) : Frame :=
  .script { strips := [⟨t, none, false⟩], isFile, flags := { exits } }

/-- Starts a shell in a process that knows nothing yet. -/
def startShell (name : Text) (environment : List (Text × Text)) (arguments : List Text) : Act Unit := do
  let s ← get
  modifyShell fun _ => firstShell s.self name (s.machine.filesOf s.self) environment
  match ← readInvocation (arguments.length + 1) false arguments with
  | none => pure ()
  | some i =>
    modifyShell fun sh =>
      { sh with settings := sh.settings.put .monitor (sh.has .monitor || sh.has .interactive) }
    Builtin.refuseMonitor
    let sh ← shell
    let typed := sh.has .stdin
    let prompts := sh.has .interactive
    match i.inline, i.arguments with
    | true, [] => fault "-c requires an argument".toList
    | true, text :: rest =>
      modifyShell fun sh => { sh with name := rest.headD sh.name, arguments := rest.drop 1 }
      pushAll (textScript text false (!typed) :: if typed then [inputScript prompts] else [])
    | false, [] =>
      modifyShell fun sh => { sh with settings := sh.settings.put .stdin true }
      push (inputScript prompts)
    | false, file :: rest =>
      if typed then
        modifyShell fun sh => { sh with arguments := i.arguments }
        push (inputScript prompts)
      else
        match (s.machine.filesOf s.self).read ⟨Text.toBytes file⟩ with
        | .ok bytes =>
          modifyShell fun sh => { sh with name := file, arguments := rest }
          push (textScript (Text.ofBytes bytes) true false)
        | .error .isADirectory => pure ()
        | .error f => fault (refusal .read file f)

end DaemonDialogue.Script.Program
