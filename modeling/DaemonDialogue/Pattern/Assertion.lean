import DaemonDialogue.Text.Property.Word
import DaemonDialogue.Text.Ascii

/-!
# Assertions

What a regular expression may assert about a place in a text, in terms of the
characters before and behind it.
-/

namespace DaemonDialogue.Pattern

/-- What may be asserted about the words at a place. -/
inductive WordEdge
  | boundary
  | noBoundary
  | start
  | finish
  | startHalf
  | finishHalf
  deriving DecidableEq, Repr

/-- What may be asserted about a place in a text. A line ends at a line feed, or with `crlf`
also at a carriage return, of which a pair counts once. Words are those of all scripts, or with
`ascii` of ASCII characters only. -/
inductive Assertion
  | textStart
  | textEnd
  | lineStart (crlf : Bool)
  | lineEnd (crlf : Bool)
  | word (ascii : Bool) (edge : WordEdge)
  deriving DecidableEq, Repr

/-- Does an assertion about words hold, given whether there is one before and one behind? -/
def WordEdge.holds (edge : WordEdge) (before after : Bool) : Bool :=
  match edge with
  | .boundary => before != after
  | .noBoundary => before == after
  | .start => !before && after
  | .finish => before && !after
  | .startHalf => !before
  | .finishHalf => !after

def Assertion.holds (a : Assertion) (before after : Option Char) : Bool :=
  match a with
  | .textStart => before.isNone
  | .textEnd => after.isNone
  | .lineStart crlf =>
    before.isNone || before == some '\n' || (crlf && before == some '\r' && after != some '\n')
  | .lineEnd crlf =>
    after.isNone || (crlf && after == some '\r') ||
      (after == some '\n' && !(crlf && before == some '\r'))
  | .word ascii edge =>
    let isWord := fun c => if ascii then c == '_' || Ascii.isAlphanumeric c else isWordPart c
    edge.holds (before.any isWord) (after.any isWord)

end DaemonDialogue.Pattern
