import DaemonDialogue.Stream.Newline
import DaemonDialogue.Text.Utf8

/-!
# Lines of a stream

A line is complete with its line feed. What follows the last line feed counts as a
line only once the stream has ended, and not if it is empty.
-/

namespace DaemonDialogue.Line

/-- The complete lines of some bytes and the rest; `current` is the line so far and `lines`
those before it, in reverse. -/
def splitOnto (lines : List (List UInt8)) (current : List UInt8) :
    List UInt8 → List (List UInt8) × List UInt8
  | [] => (lines.reverse, current.reverse)
  | b :: rest =>
    if b = Newline.lineFeed then splitOnto ((b :: current).reverse :: lines) [] rest
    else splitOnto lines (b :: current) rest

/-- The complete lines of some bytes, with their line feeds, and the rest. -/
def split (bytes : List UInt8) : List (List UInt8) × List UInt8 :=
  splitOnto [] [] bytes

def all (bytes : List UInt8) : List (List UInt8) :=
  let (lines, rest) := split bytes
  if rest.isEmpty then lines else lines ++ [rest]

def content (line : List UInt8) : List UInt8 :=
  match line.reverse with
  | b :: rest =>
    if b = Newline.lineFeed then
      match rest with
      | c :: before => if c = Newline.carriageReturn then before.reverse else rest.reverse
      | [] => []
    else line
  | [] => []

def text (line : List UInt8) : Except Utf8.Fault String :=
  Utf8.strictDecode (content line)

end DaemonDialogue.Line
