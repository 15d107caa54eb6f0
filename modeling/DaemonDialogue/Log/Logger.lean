import DaemonDialogue.File.Component
import DaemonDialogue.Log.Record

/-!
# Loggers

A logger keeps the entries at or above its level in memory, writes each as a line
of its file first if it has one, and may print them as they come.
-/

namespace DaemonDialogue

structure Logger where
  testName : String
  minLevel : Log.Level := .debug
  echo : Bool := false
  now : Log.Moment := {}
  kept : Array Log.Entry := #[]
  written : Option (Array String) := none
  echoed : Array String := #[]
  deriving Repr, Inhabited

namespace Logger

open Log (Level Source Entry)

/-- The entries that are kept, oldest first. -/
def entries (l : Logger) : List Entry := l.kept.toList

def file (l : Logger) : Option (List String) := l.written.map Array.toList

def printed (l : Logger) : List String := l.echoed.toList

def keeps (l : Logger) (level : Level) : Bool :=
  l.minLevel.rank ≤ level.rank

/-- The entry of an event that happens now. -/
def stamp (l : Logger) (level : Level) (source : Source) (message : String)
    (context : List (String × String)) : Entry :=
  ⟨l.now.timestamp, l.now.elapsedMs, level, source, message, context⟩

def print (l : Logger) (e : Entry) : Logger :=
  if l.echo then { l with echoed := l.echoed.push e.render } else l

def writeLine (l : Logger) (e : Entry) : Logger :=
  { l with written := l.written.map (·.push e.line) }

def keep (l : Logger) (e : Entry) : Logger :=
  { l with kept := l.kept.push e }

def log (l : Logger) (level : Level) (source : Source) (message : String)
    (context : List (String × String) := []) : Logger :=
  if l.keeps level then
    let e := l.stamp level source message context
    ((l.print e).writeLine e).keep e
  else l

def debug (l : Logger) (message : String) : Logger := l.log .debug .harness message

def processLine (l : Logger) (channel : Channel) (name : String) (pid : Nat) (line : String) :
    Logger :=
  l.log .debug (.process name pid channel) line

def isOutputOf (name : String) (channel : Channel) (e : Entry) : Bool :=
  match e.source with
  | .harness => false
  | .process n _ c => n == name && c == channel

/-- The lines that processes of a name wrote to a channel, oldest first. -/
def processOutput (l : Logger) (name : String) (channel : Channel) : List String :=
  (l.entries.filter (isOutputOf name channel)).map (·.message)

def count (l : Logger) (level : Level) : Nat :=
  l.entries.countP fun e => e.level == level

def errorCount (l : Logger) : Nat := l.count .error
def warnCount (l : Logger) : Nat := l.count .warn
def hasErrors (l : Logger) : Bool := 0 < l.errorCount

def fileName (testName openedAt : String) : String :=
  Component.ofName testName ++ "_" ++ openedAt ++ ".jsonl"

end Logger
end DaemonDialogue
