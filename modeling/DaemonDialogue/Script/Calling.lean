import DaemonDialogue.Script.Builtin.Children
import DaemonDialogue.Script.Builtin.Lines
import DaemonDialogue.Script.Builtin.Names
import DaemonDialogue.Script.Builtin.Place
import DaemonDialogue.Script.Reader.Command
import DaemonDialogue.Script.Redirection

/-!
# Simple commands

The words of a simple command are expanded first, then its redirections are made, then its
assignments; at last what its name stands for is run.
-/

namespace DaemonDialogue.Script

namespace Verdict

/-- What follows `command` and its options, with how many words that skips; none where more words
have to be known, and nothing inside where `command` itself is meant. -/
def behindCommand? (usual : Bool) (skipped : Nat) : List Text → Option (Option (List Text × Nat × Bool))
  | [] => none
  | word :: rest =>
    match word with
    | ['-', '-'] => if rest.isEmpty then none else some (some (rest, skipped + 1, usual))
    | '-' :: c :: letters =>
      if (c :: letters).all (· == 'p') then behindCommand? true (skipped + 1) rest else some none
    | _ => some (some (word :: rest, skipped, usual))

/-- What the first words of a command show; none where more of them have to be known. -/
def ofWords? (s : Shell) : Nat → Verdict → Bool → List Text → Option Verdict
  | 0, v, _, _ => some v
  | _, _, _, [] => none
  | fuel + 1, v, isFirst, name :: rest =>
    let function := if v.manner.pastFunctions then none else s.functions.lookup name
    match function, Builtin.ofName? name with
    | none, some b =>
      let special := if isFirst then b.isSpecial else v.special
      let v : Verdict :=
        { v with special, localizes := !special, declares := b.declares, replaces := b == .exec }
      if b != .command then some v
      else
        match behindCommand? v.manner.usualPath (v.skipped + 1) rest with
        | none => none
        | some none => some v
        | some (some (left, skipped, usualPath)) =>
          ofWords? s fuel { v with skipped, manner := { pastFunctions := true, usualPath } } false left
    | _, _ => some { v with localizes := true, declares := false, replaces := false }

def ofAll (s : Shell) (words : List Text) : Verdict :=
  match words with
  | [] => {}
  | name :: _ =>
    match Builtin.ofName? name, s.functions.lookup name with
    | some b, none => { special := b.isSpecial, localizes := !b.isSpecial }
    | _, _ => { localizes := true }

end Verdict

namespace Act

def resolve : List Redirect → List Resolved → Purpose → Act Unit
  | [], done, p => push (.open_ done.reverse p)
  | .document n number :: left, done, p => resolve left (.document n number :: done) p
  | .open_ n mode w :: left, done, p => push (.expand w [] (.target (.open_ n mode w) left done p))
  | .copy n w :: left, done, p => push (.expand w [] (.target (.copy n w) left done p))

/-- What a redirection leads to, given what its word stands for; none if that is no descriptor. -/
def resolved? (r : Redirect) (t : Text) : Option Resolved :=
  match r with
  | .open_ n mode _ => some (.open_ n mode t)
  | .document n number => some (.document n number)
  | .copy n _ =>
    match t with
    | ['-'] => some (.copy n none)
    | [c] => (Ascii.digit? c).map fun d => .copy n (some d)
    | _ => none

/-- The descriptor that complaints went to before the redirections of a command. -/
def tracing (c : Calling) : Act (Option Nat) := do
  let p ← self
  let now := p.opening? 2
  if c.redirects.isEmpty then return now
  else
    match p.saved.head?.bind fun level => level.lookup 2 with
    | some kept => return kept
    | none => return now

/-- Shows a command behind a mark before it is run. -/
def trace (c : Calling) (mark : Text) : Act Unit := do
  let line := mark ++ Printing.spaced (c.assigned ++ c.arguments) ++ ['\n']
  match ← tracing c with
  | some id =>
    let s ← get
    setMachine (s.machine.writeTo id (Text.toBytes line)).1
  | none => pure ()

/-- Expands a mark, and goes on at once where nothing is to be expanded. -/
def withMark (name : String) (c : Option Calling) (ready : Text → Act Unit) : Act Unit := do
  let sh ← shell
  let raw := (sh.bindings.value? name.toList).getD []
  if raw.all fun d => !(['$', '`', '\\'].contains d) then ready raw
  else
    let start : Reader.State :=
      { strips := [⟨raw, none, false⟩], aliases := sh.aliases, documents := sh.documents
        nextDocument := sh.nextDocument }
    match (Reader.readQuoted (Reader.fuelFor start)).run start with
    | .ok w st =>
      modifyShell fun sh => { sh with documents := st.documents, nextDocument := st.nextDocument }
      push (.expand w [] (.mark raw c))
    | .error (.fault line f) _ =>
      modifyShell fun sh => { sh with line }
      complain f.message.toList
      ready raw
    | .error .starved _ => ready raw

def runBuiltin (b : Builtin) (f : Flags) (name : Text) (arguments : List Text) : Act Unit :=
  match b with
  | .source => Builtin.runSource arguments
  | .colon | .true_ => setStatus 0
  | .alias_ => Builtin.runAlias arguments
  | .background | .foreground => Builtin.runMove arguments
  | .break_ => Builtin.runBreak false arguments
  | .cd => Builtin.runCd arguments
  | .command => Builtin.runCommand arguments
  | .continue_ => Builtin.runBreak true arguments
  | .echo => reply (Printing.echo arguments) 0
  | .eval => Builtin.runEval f arguments
  | .exec => Builtin.runExec arguments
  | .exit => Builtin.runExit arguments
  | .export_ => Builtin.runDeclare "export" Variables.export_ Variable.exported arguments
  | .false_ => setStatus 1
  | .getopts => Builtin.runGetopts arguments
  | .hash => Builtin.runHash arguments
  | .jobs => Builtin.runJobs arguments
  | .kill => Builtin.runKill arguments
  | .local_ => Builtin.runLocal arguments
  | .printf => Builtin.runPrintf arguments
  | .pwd => Builtin.runPwd arguments
  | .read => Builtin.runRead arguments
  | .readonly => Builtin.runDeclare "readonly" Variables.close Variable.readOnly arguments
  | .return_ => Builtin.runReturn arguments
  | .set => Builtin.runSet arguments
  | .shift => Builtin.runShift arguments
  | .test => Builtin.runTest name arguments
  | .times => reply "0m0.000000s 0m0.000000s\n0m0.000000s 0m0.000000s\n".toList 0
  | .trap => Builtin.runTrap arguments
  | .type => Builtin.runType arguments
  | .ulimit => Builtin.runUlimit arguments
  | .umask => Builtin.runUmask arguments
  | .unalias => Builtin.runUnalias arguments
  | .unset => Builtin.runUnset arguments
  | .wait => Builtin.runWait arguments

/-- Does a process do what is left in its own place? -/
def endsHere (f : Flags) : Act Bool := return f.exits && !(← shell).hasTraps

def maxDepth : Nat := 1000

/-- Runs what the name of a command stands for. -/
def invoke (c : Calling) (v : Verdict) : Act Unit := do
  let words := c.arguments.drop v.skipped
  match words with
  | [] => setStatus (← shell).outputStatus
  | name :: arguments =>
    match ← lookup v.manner name with
    | .function f =>
      let sh ← shell
      if maxDepth ≤ sh.depth then
        fault ("Maximum function recursion depth (".toList ++ Text.ofNat maxDepth ++ ") reached".toList)
      else
        modifyShell fun sh => { sh with arguments, cursor := {}, loops := 0, depth := sh.depth + 1 }
        pushAll [.evaluate f.body { tested := c.flags.tested },
          .function sh.arguments sh.cursor sh.loops]
    | .builtin b =>
      push (.guard (← shell).command v.special)
      modifyShell fun sh => { sh with command := some name }
      runBuiltin b c.flags name arguments
    | .program _ =>
      let sh ← shell
      let path := if v.manner.usualPath then usualPath else sh.path
      if ← endsHere c.flags then push (.exec words path)
      else
        let pid ← fork [.exec words path] id
        push (.await (← addJob [pid]))
    | .missing f =>
      complain (name ++ [':', ' '] ++ Executable.reason f)
      setStatus 127
      if v.special then raise .error

def assignNext (c : Calling) (v : Verdict) : Act Unit := do
  match c.assignments with
  | [] =>
    if (← shell).has .xtrace then
      withMark "PS4" (some { c with verdict := some v }) fun mark => do
        trace c mark
        invoke c v
    else invoke c v
  | w :: rest => push (.expand w [] (.value { c with assignments := rest }))

/-- Makes an assignment of a command, given what it stands for. -/
def assign (c : Calling) (v : Verdict) (t : Text) : Act Unit := do
  let (name, value) := Builtin.splitAssignment t
  let fine ← if v.localizes then Builtin.makeLocal true t else Builtin.setVariable name (value.getD [])
  if fine then
    if v.replaces && v.skipped + 1 < c.arguments.length then
      modifyShell fun sh => { sh with bindings := sh.bindings.export_ name }
    assignNext { c with assigned := c.assigned ++ [t] } v

def callKnown (c : Calling) (v : Verdict) : Act Unit := do
  let p ← self
  let c := { c with verdict := some v }
  if v.localizes then
    push (.forget p.locals.length)
    modifySelf fun p => { p with locals := [] :: p.locals }
  if c.redirects.isEmpty then assignNext c v
  else
    push (.restore p.saved.length v.replaces)
    modifySelf fun p => { p with saved := [] :: p.saved }
    resolve c.redirects [] (.call c)

/-- Expands the next word of a command, if there is one. -/
def nextWord (c : Calling) : Act Unit := do
  let sh ← shell
  let verdict := match c.verdict with
    | some v => some v
    | none => Verdict.ofWords? sh (c.arguments.length + 1) {} true c.arguments
  match c.words, verdict with
  | [], some v => callKnown c v
  | [], none => callKnown c (Verdict.ofAll sh c.arguments)
  | w :: rest, verdict => push (.expand w [] (.argument { c with words := rest, verdict }))

end Act
end DaemonDialogue.Script
