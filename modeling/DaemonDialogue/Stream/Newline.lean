/-!
# Line ends

A carriage return directly before a line feed does not count. A stream of bytes
becomes a list of units, each a byte and the number of raw bytes it stands for,
so a place among the units is a place in the stream.
-/

namespace DaemonDialogue.Newline

def carriageReturn : UInt8 := 13
def lineFeed : UInt8 := 10

/-- A byte and how many raw bytes it stands for. -/
structure Unit where
  byte : UInt8
  width : Nat
  deriving DecidableEq, Repr

def unitsOnto (read : List Newline.Unit) : List UInt8 → List Newline.Unit
  | [] => read.reverse
  | [b] => (⟨b, 1⟩ :: read).reverse
  | a :: b :: rest =>
    if a = carriageReturn ∧ b = lineFeed then unitsOnto (⟨lineFeed, 2⟩ :: read) rest
    else unitsOnto (⟨a, 1⟩ :: read) (b :: rest)

def units (raw : List UInt8) : List Newline.Unit :=
  unitsOnto [] raw

/-- A stream in which every line ends in a line feed alone. -/
def normalize (raw : List UInt8) : List UInt8 :=
  (units raw).map (·.byte)

/-- How many raw bytes units stand for. -/
def rawLength (us : List Newline.Unit) : Nat :=
  us.foldl (fun n u => n + u.width) 0

/-- Where each unit starts in the stream, and where the last one ends. -/
def offsets (raw : List UInt8) : List Nat :=
  go 0 (units raw)
where
  go (start : Nat) : List Newline.Unit → List Nat
    | [] => [start]
    | u :: rest => start :: go (start + u.width) rest

end DaemonDialogue.Newline
