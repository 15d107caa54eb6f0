import DaemonDialogue.Text.Ascii

/-!
# Numerals

Unsigned decimal numerals below a bound, read from the left: the first character
that is no digit, or that brings the value above the bound, decides the fault.
-/

namespace DaemonDialogue.Numeral

/-- Why a text is not a numeral within its bound. -/
inductive Fault
  | empty
  | invalidDigit
  | tooLarge
  deriving DecidableEq, Repr

def Fault.message : Fault → String
  | .empty => "cannot parse integer from empty string"
  | .invalidDigit => "invalid digit found in string"
  | .tooLarge => "number too large to fit in target type"

def readDigits (bound : Nat) : Nat → List Char → Except Fault Nat
  | value, [] => .ok value
  | value, c :: rest =>
    match Ascii.digit? c with
    | none => .error .invalidDigit
    | some d =>
      if value * 10 + d ≤ bound then readDigits bound (value * 10 + d) rest
      else .error .tooLarge

/-- Reads a numeral of at least one digit, with an optional plus sign. -/
def read (bound : Nat) (text : String) : Except Fault Nat :=
  match text.toList with
  | [] => .error .empty
  | ['+'] => .error .invalidDigit
  | '+' :: rest => readDigits bound 0 rest
  | chars => readDigits bound 0 chars

def maxU16 : Nat := 0xFFFF
def maxU32 : Nat := 0xFFFFFFFF
def maxU64 : Nat := 0xFFFFFFFFFFFFFFFF

/-- The last `n` digits of a number, with leading zeros. -/
def padded (n value : Nat) : String :=
  let digits := Nat.toDigits 10 value
  String.ofList (List.replicate (n - digits.length) '0' ++ digits)

end DaemonDialogue.Numeral

namespace DaemonDialogue

/-- A text with blanks behind it up to a width. -/
def padEnd (n : Nat) (text : String) : String :=
  text ++ String.ofList (List.replicate (n - text.toList.length) ' ')

/-- A text with blanks before it up to a width. -/
def padStart (n : Nat) (text : String) : String :=
  String.ofList (List.replicate (n - text.toList.length) ' ') ++ text

end DaemonDialogue
