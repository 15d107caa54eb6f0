import DaemonDialogue.Expectation.Polling
import DaemonDialogue.Failure
import DaemonDialogue.Pattern.Search

/-!
# Expectations

An expectation waits for a literal text behind a cursor or for a pattern anywhere in
what a stream has written. It is decided as soon as there is a match, or as soon as
the stream has ended without one.
-/

namespace DaemonDialogue

/-- A way to look for something in a text: how it is written, and the range and text of a match. -/
structure Matcher where
  source : String
  find? : String → Option (Nat × Nat × String)

def Pattern.matcher (p : Pattern) : Matcher := ⟨p.source, p.find?⟩

def Matcher.describe (m : Matcher) : String := "/" ++ m.source ++ "/"

inductive Expectation
  | literal (text : String)
  | pattern (pattern : Pattern)

def Expectation.describe : Expectation → String
  | .literal text => text
  | .pattern p => p.matcher.describe

structure Match where
  channel : Channel
  start : Nat
  stop : Nat
  text : String
  deriving DecidableEq, Repr

namespace Match

/-- One look for a match in the text of a stream, given whether it had ended before. -/
def lookPattern (channel : Channel) (m : Matcher) (ended : Bool) (history : String) :
    Option (Except Failure Match) :=
  match m.find? history with
  | some (start, stop, text) => some (.ok ⟨channel, start, stop, text⟩)
  | none => if ended then some (.error (.streamClosed channel m.describe history)) else none

end Match
end DaemonDialogue
