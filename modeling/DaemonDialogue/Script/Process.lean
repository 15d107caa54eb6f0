import DaemonDialogue.Daemon.Signal
import DaemonDialogue.File.Tree
import DaemonDialogue.Script.Expansion
import DaemonDialogue.Script.Reader.Basic

/-!
# Processes

A process is what is left of its work, one frame on top of the other, with what its shell
knows, its descriptors, and what it does on signals. A program is a process with a chore.
-/

namespace DaemonDialogue.Script

/-- Whether the outcome of a command is asked for by what is around it, and whether the process
ends with it. -/
structure Flags where
  tested : Bool := false
  exits : Bool := false
  deriving DecidableEq, Repr, Inhabited

/-- How a simple command is run: as it is, or as a part of `command`, past functions and
perhaps past the usual path. -/
structure Manner where
  pastFunctions : Bool := false
  usualPath : Bool := false
  deriving DecidableEq, Repr, Inhabited

/-- What the first words of a simple command have shown: whether a fault in it ends the script,
whether its assignments last only as long as it, whether arguments of the form of assignments
are expanded like those, whether it may take the place of the process, and how many of its words
come before its name. -/
structure Verdict where
  special : Bool := false
  localizes : Bool := false
  declares : Bool := false
  replaces : Bool := false
  skipped : Nat := 0
  manner : Manner := {}
  deriving DecidableEq, Repr, Inhabited

/-- A simple command that is being run: what of it is done, and what is left. -/
structure Calling where
  line : Nat
  flags : Flags
  words : List Word := []
  arguments : List Text := []
  verdict : Option Verdict := none
  redirects : List Redirect := []
  assignments : List Word := []
  assigned : List Text := []
  deriving Inhabited

/-- What a redirection leads to when its words are known. A document is expanded only when it is
its turn. -/
inductive Resolved
  | open_ (descriptor : Nat) (mode : OpenMode) (path : Text)
  | copy (descriptor : Nat) (source : Option Nat)
  | document (descriptor : Nat) (number : Nat)
  | content (descriptor : Nat) (text : Text)
  deriving Repr, Inhabited

/-- The command whose redirections are made. Those of a subshell are made in a child, and stay. -/
inductive Purpose
  | call (c : Calling)
  | compound (body : Command) (f : Flags)
  | subshell (body : Command) (background : Bool) (f : Flags)
  | child (body : Command) (f : Flags)
  deriving Inhabited

/-- A loop: its parts, and how its body ended last. -/
structure Loop where
  untilTrue : Bool
  condition : Command
  body : Command
  flags : Flags
  status : Nat := 0
  deriving Inhabited

/-- A loop over words. -/
structure Round where
  name : Text
  words : List Word := []
  items : List Text := []
  body : Command
  flags : Flags
  begun : Bool := false
  status : Nat := 0
  deriving Inhabited

/-- A choice by patterns: the subject, the patterns left of the case in hand and its body, and
the other cases. -/
structure Selection where
  subject : Text := []
  patterns : List Word := []
  body : Option Command := none
  cases : List (List Word × Option Command) := []
  flags : Flags
  deriving Inhabited

/-- What is done with what a word stands for. A mark stands before a command that is shown, or
asks for a line; where it cannot be expanded it is taken as it is. -/
inductive Continuation
  | argument (c : Calling)
  | target (r : Redirect) (left : List Redirect) (done : List Resolved) (p : Purpose)
  | document (descriptor : Nat) (left : List Resolved) (p : Purpose)
  | value (c : Calling)
  | item (r : Round)
  | subject (s : Selection)
  | pattern (s : Selection)
  | mark (raw : Text) (c : Option Calling)
  deriving Inhabited

/-- Where commands are read from: text, which is all there is if it is `complete`, or else more of
it comes as input. A file ends what `return` leaves; what is evaluated only passes it on. How much
of the text was echoed is kept, how often one that prompts has asked for more of a command, and
whether a command of it has been run. -/
structure Source where
  strips : List Reader.Strip
  line : Nat := 1
  complete : Bool := true
  input : Bool := false
  isFile : Bool := false
  prompts : Bool := false
  asked : Option Nat := none
  echoed : Nat := 0
  flags : Flags := {}
  ran : Bool := false
  deriving Inhabited

/-- How lines are shown: with numbers, on lines that are not empty or on all, without more than one
empty line in a row, and with their ends, tabs and other characters made visible. -/
structure Chore.Display where
  numbers : Bool := false
  numbersFilled : Bool := false
  squeezes : Bool := false
  showsEnds : Bool := false
  showsTabs : Bool := false
  showsOthers : Bool := false
  deriving DecidableEq, Repr, Inhabited

/-- What has been shown so far: the number of the last line, how many ends of lines came last (one
less than that within a line), and whether a return may belong to the end of a line. -/
structure Chore.Shown where
  line : Nat := 0
  ends : Int := 0
  owesReturn : Bool := false
  deriving DecidableEq, Repr, Inhabited

/-- Sources that are read one after the other, by the descriptor of the one that is open. -/
structure Chore.Reading where
  name : Text
  sources : List Text
  opened : Option Nat := none
  status : Nat := 0
  deriving Repr, Inhabited

/-- What was read of a source so far, the last bytes first; `regular` if it is a file. -/
structure Chore.Gathered where
  name : Text
  regular : Bool
  parts : List (List UInt8) := []
  deriving Repr, Inhabited

/-- How much of the beginning of a source is wanted. -/
structure Chore.Portion where
  bytes : Bool := false
  count : Nat := 10
  left : Nat := 10
  headers : Bool := false
  isFirst : Bool := true
  deriving Repr, Inhabited

/-- Numbers in steps, of which so many are left: they have a point before their last `scale` digits,
and are written with some places, up to a width or by a format. -/
structure Chore.Series where
  next : Int
  step : Int
  left : Nat
  scale : Nat
  places : Nat
  width : Nat
  format : Option Text
  separator : Text
  isFirst : Bool := true
  deriving Repr, Inhabited

/-- A command that is given some time, and what is done at the end of that: a signal is sent, after
some more time one that cannot be ignored; perhaps only to the command itself, perhaps without that
changing the status, and perhaps it is said. -/
structure Chore.Limit where
  name : Text
  command : Text
  child : Nat
  ends : Option Nat
  signal : Signal := .terminate
  grace : Option Nat := none
  alone : Bool := false
  keepsStatus : Bool := false
  tells : Bool := false
  sent : Bool := false
  deriving Repr, Inhabited

/-- The work of a program that does not end at once. -/
inductive Chore
  | cat (r : Chore.Reading) (d : Chore.Display) (s : Chore.Shown)
  | head (r : Chore.Reading) (p : Chore.Portion)
  | gather (program : String) (arguments : List Text) (r : Chore.Reading)
      (read : List Chore.Gathered)
  | follow (descriptor : Nat)
  | tee (descriptors : List Nat) (status : Nat)
  | series (name : Text) (s : Chore.Series)
  | repeat_ (line : List UInt8)
  | sleep (wakes : Option Nat)
  | limit (l : Chore.Limit)
  deriving Repr, Inhabited

/-- What a variable or the settings were before a function changed them. -/
inductive Kept
  | variable (name : Text) (old : Option Variable)
  | settings (old : Settings)
  deriving Repr, Inhabited

/-- What is waited for by `wait`: all jobs, or some processes or jobs, one after the other. -/
inductive Awaited
  | all
  | some_ (jobs : List Text) (status : Nat)
  deriving Repr, Inhabited

/-- A piece of work. -/
inductive Frame
  | detach (ignoring : List Nat)
  | evaluate (c : Command) (f : Flags)
  | after (f : Flags) (checks : Bool)
  | negate
  | next (second : Command) (f : Flags)
  | both (second : Command) (f : Flags)
  | either (second : Command) (f : Flags)
  | choose (yes : Command) (no : Option Command) (f : Flags)
  | tested (l : Loop)
  | again (l : Loop)
  | round (r : Round)
  | expand (w : Word) (answers : List Text) (then_ : Continuation)
  | collect (pipe job : Nat) (read : List (List UInt8))
  | restore (depth : Nat) (keeps : Bool)
  | forget (depth : Nat)
  | open_ (left : List Resolved) (p : Purpose)
  | function (arguments : List Text) (cursor : OptionCursor) (loops : Nat)
  | guard (name : Option Text) (special : Bool)
  | script (s : Source)
  | trapped (status : Nat) (kept : Option Nat)
  | lastWords
  | await (job : Nat)
  | wait (a : Awaited)
  | readLine (raw : Bool) (names : List Text) (read : List Run) (shielded : Bool)
  | exec (arguments : List Text) (path : Text)
  | begin_ (program : Text) (words : List Text)
  | chore (c : Chore)
  deriving Inhabited

/-- What makes a shell give up its work. -/
inductive Raise
  | error
  | exit
  | end_
  deriving DecidableEq, Repr, Inhabited

/-- How a process goes on: with its work, past some of it up to a loop or the end of a function,
or past all that does not catch what was raised. -/
inductive Mode
  | running
  | breaking (loops : Nat)
  | continuing (loops : Nat)
  | returning (explicit : Bool)
  | raising (r : Raise)
  deriving DecidableEq, Repr, Inhabited

/-- A process; it is not ready before some time. -/
structure Process where
  pid : Nat
  parent : Nat := 0
  shell : Shell := {}
  work : List Frame := []
  mode : Mode := .running
  descriptors : List (Nat × Nat) := []
  saved : List (List (Nat × Option Nat)) := []
  held : List Nat := []
  locals : List (List Kept) := []
  directory : File.Place := []
  pending : List Nat := []
  kept : Option Nat := none
  ready : Nat := 0
  ended : Option ExitStatus := none
  paused : Bool := false
  deriving Inhabited

namespace Process

def push (p : Process) (f : Frame) : Process := { p with work := f :: p.work }

def pushAll (p : Process) (fs : List Frame) : Process := { p with work := fs ++ p.work }

def mapShell (p : Process) (f : Shell → Shell) : Process := { p with shell := f p.shell }

def withStatus (p : Process) (status : Nat) : Process := { p with shell := { p.shell with status } }

def opening? (p : Process) (descriptor : Nat) : Option Nat := p.descriptors.lookup descriptor

/-- The process with a descriptor that leads elsewhere, or nowhere. -/
def direct (p : Process) (descriptor : Nat) (opening : Option Nat) : Process :=
  { p with descriptors :=
      opening.toList.map (fun o => (descriptor, o)) ++ p.descriptors.filter fun d => d.1 != descriptor }

def openings (p : Process) : List Nat :=
  p.descriptors.map (·.2) ++ p.held ++ p.saved.flatMap fun level => level.filterMap (·.2)

def ignores (p : Process) (signal : Nat) : Bool :=
  p.shell.ignored.contains signal || p.shell.trap? signal == some []

/-- The signals that stay ignored in a new program. -/
def ignoredSignals (p : Process) : List Nat :=
  p.shell.ignored ++ (p.shell.traps.filter fun t => t.1 != 0 && t.2.isEmpty).map (·.1)

def end_ (p : Process) (status : ExitStatus) : Process :=
  { p with
    ended := some status, work := [], descriptors := [], saved := [], held := [], locals := []
    pending := [], mode := .running }

def child (p : Process) (pid : Nat) (work : List Frame) : Process :=
  { pid, parent := p.pid, work
    shell := { p.shell with jobs := [] }
    descriptors := p.descriptors, held := p.held ++ p.saved.flatMap fun level => level.filterMap (·.2)
    locals := p.locals, directory := p.directory }

/-- A child on its own: of what is done on signals only what is ignored stays, and those that came in
before are forgotten. -/
def detached (ignoring : List Nat) (p : Process) : Process :=
  { p with
    pending := []
    shell :=
      { p.shell with
        ignored := p.shell.ignored ++ ignoring, traps := p.shell.traps.filter fun t => t.2.isEmpty } }

/-- The process with what its shell did before it was changed, up to some depth. -/
def forgetLocals (depth : Nat) (p : Process) : Process :=
  let undone := (p.locals.take (p.locals.length - depth)).flatten
  let shell := undone.foldl (fun (s : Shell) k =>
    match k with
    | .variable name old => ({ s with bindings := s.bindings.put name old } : Shell).touched name
    | .settings old => { s with settings := old }) p.shell
  { p with shell, locals := p.locals.drop (p.locals.length - depth) }

/-- The process with its descriptors as they were, up to some depth; `keeps` leaves those of the
last redirections. -/
def restoreDescriptors (depth : Nat) (keeps : Bool) (p : Process) : Process :=
  let levels := p.saved.take (p.saved.length - depth)
  let undone := if keeps then levels.dropLast else levels
  let q := undone.flatten.foldl (fun (p : Process) (descriptor, opening) =>
    p.direct descriptor opening) p
  { q with saved := p.saved.drop (p.saved.length - depth) }

end Process
end DaemonDialogue.Script
