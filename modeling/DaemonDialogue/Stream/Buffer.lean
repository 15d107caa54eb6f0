import DaemonDialogue.Text.Utf8
import DaemonDialogue.Stream.Newline

/-!
# Captured output

A buffer holds all bytes of an output stream so far and whether more can come. A
cursor is a place in a buffer that only moves forward. `Cursor.scan` looks for a
literal text behind the cursor, line ends of either kind alike.
-/

namespace DaemonDialogue

/-- An output stream of a process. -/
inductive Channel
  | stdout
  | stderr
  deriving DecidableEq, Repr, Inhabited

def Channel.name : Channel → String
  | .stdout => "stdout"
  | .stderr => "stderr"

/-- What a stream has written so far, and whether it has ended. -/
structure Buffer where
  written : Array UInt8 := #[]
  closed : Bool := false
  deriving DecidableEq, Repr, Inhabited

namespace Buffer

/-- The bytes so far, in the order in which they came. -/
def bytes (b : Buffer) : List UInt8 := b.written.toList

def append (b : Buffer) (piece : List UInt8) : Buffer :=
  { b with written := b.written ++ piece }

def close (b : Buffer) : Buffer :=
  { b with closed := true }

def length (b : Buffer) : Nat := b.written.size

def isEmpty (b : Buffer) : Bool := b.written.isEmpty

def snapshot (b : Buffer) : String := Utf8.decode b.bytes

def textBetween (b : Buffer) (start stop : Nat) : String :=
  Utf8.decode ((b.bytes.drop start).take (stop - start))

@[simp] theorem bytes_empty : bytes {} = [] := rfl

@[simp] theorem bytes_append (b : Buffer) (piece : List UInt8) :
    (b.append piece).bytes = b.bytes ++ piece := by
  simp [append, bytes]

@[simp] theorem bytes_close (b : Buffer) : b.close.bytes = b.bytes := rfl

end Buffer

/-- A place in a buffer: everything before it is consumed. -/
structure Cursor where
  position : Nat := 0
  deriving DecidableEq, Repr, Inhabited

inductive Scan
  | found (start stop : Nat)
  | pending
  | closed
  deriving DecidableEq, Repr

/-- The place of the first occurrence of `needle` in a list, counted from `place`. -/
def findFrom (needle : List UInt8) (place : Nat) : List UInt8 → Option Nat
  | [] => if needle.isEmpty then some place else none
  | b :: rest =>
    if needle.isPrefixOf (b :: rest) then some place else findFrom needle (place + 1) rest

namespace Cursor

def unreadBytes (c : Cursor) (b : Buffer) : List UInt8 := b.bytes.drop c.position

def unread (c : Cursor) (b : Buffer) : String := Utf8.decode (c.unreadBytes b)

/-- Is everything consumed, and nothing more to come? -/
def isExhausted (c : Cursor) (b : Buffer) : Bool :=
  b.closed && (c.unreadBytes b).isEmpty

/-- The raw range of the first occurrence of a text in a stream, line ends of either kind alike. -/
def findRange? (text : List UInt8) (raw : List UInt8) : Option (Nat × Nat) :=
  let needle := Newline.normalize text
  let units := Newline.units raw
  (findFrom needle 0 (units.map (·.byte))).map fun place =>
    (Newline.rawLength (units.take place),
      Newline.rawLength (units.take (place + needle.length)))

/-- Looks for a text among what is not consumed; if it is there the cursor moves behind it. -/
def scan (c : Cursor) (b : Buffer) (text : String) : Scan × Cursor :=
  match findRange? (Utf8.encode text) (c.unreadBytes b) with
  | some (start, stop) =>
    (.found (c.position + start) (c.position + stop), ⟨max c.position (c.position + stop)⟩)
  | none => (if b.closed then .closed else .pending, c)

def drain (c : Cursor) (b : Buffer) : String × Cursor :=
  (c.unread b, ⟨c.position + (c.unreadBytes b).length⟩)

end Cursor
end DaemonDialogue
