import DaemonDialogue.Log.Entry
import DaemonDialogue.Text.Quoted

/-!
# Journals

A node writes a line for everything that happens to it, unless the filter hides the
level from that part of the node. Characters that could steer a terminal are written
as escapes.
-/

namespace DaemonDialogue.Node

inductive Topic
  | program
  | chain
  | lifecycle
  | server
  deriving DecidableEq, Repr, Inhabited

def Topic.name : Topic → String
  | .program => "testnode"
  | .chain => "testnode::chain"
  | .lifecycle => "testnode::node"
  | .server => "testnode::server"

abbrev Visibility := Topic → Log.Level → Bool

structure Line where
  level : Log.Level
  message : String
  deriving DecidableEq, Repr, Inhabited

/-- A character as it is written, or its escape if it could steer a terminal. -/
def escaped (c : Char) : List Char :=
  let n := c.toNat
  if n == 0x07 || n == 0x08 || n == 0x0C then ['\\', 'x', '0'] ++ Quoted.hexDigits n
  else if n == 0x1B || n == 0x7F then ['\\', 'x'] ++ Quoted.hexDigits n
  else if 0x80 ≤ n && n ≤ 0x9F then ['\\', 'u', '\x7b'] ++ Quoted.hexDigits n ++ ['\x7d']
  else [c]

def Line.render (time : String) (line : Line) : String :=
  padEnd 5 line.level.upperName ++ "[" ++ time ++ "] " ++
    String.ofList (line.message.toList.flatMap escaped) ++ "\n"

/-- The lines a node has written, and which ones it writes. -/
structure Journal where
  visible : Visibility := fun _ _ => true
  lines : List Line := []

/-- Writes a line, if it is to be seen. -/
def Journal.note (j : Journal) (topic : Topic) (level : Log.Level) (message : String) : Journal :=
  if j.visible topic level then { j with lines := j.lines ++ [⟨level, message⟩] } else j

/-- Everything that was written, one time for all lines. -/
def Journal.render (time : String) (j : Journal) : String :=
  String.join (j.lines.map (Line.render time))

end DaemonDialogue.Node
