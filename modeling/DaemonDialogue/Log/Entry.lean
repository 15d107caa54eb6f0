import DaemonDialogue.Stream.Buffer
import DaemonDialogue.Text.Numeral
import DaemonDialogue.Time.Timestamp

/-!
# Log entries

What the harness did and what its processes wrote, line by line, each with the moment
at which it happened.
-/

namespace DaemonDialogue.Log

inductive Level
  | trace
  | debug
  | info
  | warn
  | error
  deriving DecidableEq, Repr, Inhabited

namespace Level

def rank : Level → Nat
  | .trace => 0
  | .debug => 1
  | .info => 2
  | .warn => 3
  | .error => 4

def all : List Level := [.trace, .debug, .info, .warn, .error]

def name : Level → String
  | .trace => "trace"
  | .debug => "debug"
  | .info => "info"
  | .warn => "warn"
  | .error => "error"

def upperName : Level → String
  | .trace => "TRACE"
  | .debug => "DEBUG"
  | .info => "INFO"
  | .warn => "WARN"
  | .error => "ERROR"

end Level

/-- Who an entry is from: the harness, or a line that a process wrote. -/
inductive Source
  | harness
  | process (name : String) (pid : Nat) (channel : Channel)
  deriving DecidableEq, Repr, Inhabited

def Source.render : Source → String
  | .harness => "harness"
  | .process name pid channel => s!"{name}:{pid}:{channel.name}"

/-- A moment: the time of day, and how long the log had been open. -/
structure Moment where
  timestamp : Timestamp := .epoch
  elapsedMs : Nat := 0
  deriving DecidableEq, Repr, Inhabited

structure Entry where
  timestamp : Timestamp
  elapsedMs : Nat
  level : Level
  source : Source
  message : String
  context : List (String × String) := []
  deriving DecidableEq, Repr, Inhabited

def Entry.render (e : Entry) : String :=
  s!"[{padStart 6 (toString e.elapsedMs)}ms] [{padEnd 5 e.level.upperName}] " ++
    s!"[{e.source.render}] {e.message}" ++
    String.join (e.context.map fun (key, value) => s!" {key}={value}")

end DaemonDialogue.Log
