import DaemonDialogue.Pattern.CharSet

/-!
# Characters as runs of bytes

In UTF-8 a range of code points is a list of sequences, each of which lets its bytes
range independently of one another.
-/

namespace DaemonDialogue.Pattern

/-- The bytes from the first to the second. -/
abbrev ByteRange := UInt8 × UInt8

abbrev ByteRun := List ByteRange

namespace ByteRun

/-- The run of two code points that are encoded alike but for their last bytes. -/
def between (a b : Nat) : ByteRun :=
  (String.utf8EncodeChar (Char.ofNat a)).zip (String.utf8EncodeChar (Char.ofNat b))

/-- Where a range has to be cut: the last code point of the first part and the first one of the
second. The parts lie on both sides of the surrogates, have one length each, or agree in all but
their last bytes, which take all values. -/
def cut? (a b : Nat) : Option (Nat × Nat) :=
  if a < 0xE000 && 0xD7FF < b then some (0xD7FF, 0xE000)
  else if b < a then none
  else
    match [0x7F, 0x7FF, 0xFFFF].find? fun top => a ≤ top && top < b with
    | some top => some (top, top + 1)
    | none =>
      if b ≤ 0x7F then none
      else
        [0x40, 0x1000, 0x40000].findSome? fun unit =>
          if a / unit == b / unit then none
          else if a % unit != 0 then some (a / unit * unit + unit - 1, a / unit * unit + unit)
          else if b % unit != unit - 1 then some (b / unit * unit - 1, b / unit * unit)
          else none

/-- The runs of a range, which is cut at most `fuel` times in a row. -/
def ofRange : Nat → Nat → Nat → List ByteRun
  | 0, _, _ => []
  | fuel + 1, a, b =>
    match cut? a b with
    | some (top, bottom) => ofRange fuel a top ++ ofRange fuel bottom b
    | none => if a ≤ b then [between a b] else []

def ofSet (s : CharSet) : List ByteRun :=
  s.ranges.flatMap fun (a, b) => ofRange 32 a b

end ByteRun
end DaemonDialogue.Pattern
