import DaemonDialogue.Script.Text

/-!
# Numbers in scripts

A number is read from the beginning of a text: blanks, a sign, and digits of a base, which
the first of them may tell. What is beyond the range counts as its end.
-/

namespace DaemonDialogue.Script.Number

def maxValue : Int := 0x7FFFFFFFFFFFFFFF

def minValue : Int := -0x8000000000000000

def digits (base : Nat) : Nat → Text → Nat × Text
  | n, [] => (n, [])
  | n, c :: rest =>
    match Ascii.hexDigit? c with
    | some d => if d < base then digits base (n * base + d) rest else (n, c :: rest)
    | none => (n, c :: rest)

def startsWithDigit (base : Nat) : Text → Bool
  | c :: _ => (Ascii.hexDigit? c).any (· < base)
  | [] => false

/-- The value of an unsigned number of a base, or of the base that it tells where none is given,
and what is behind it. -/
def magnitude? (base : Nat) (t : Text) : Option (Nat × Text) :=
  match base, t with
  | 0, '0' :: x :: rest =>
    if (x == 'x' || x == 'X') && startsWithDigit 16 rest then some (digits 16 0 rest)
    else some (digits 8 0 (x :: rest))
  | 0, t => if startsWithDigit 10 t then some (digits 10 0 t) else none
  | base, t => if startsWithDigit base t then some (digits base 0 t) else none

/-- What is found at the beginning of a text: a number, whether it was within the range, and
what is behind it. -/
structure Found where
  value : Int
  inRange : Bool
  rest : Text
  deriving Repr

def found? (base : Nat) (t : Text) : Option Found :=
  let t := t.dropWhile Text.isSpace
  let (negative, t) := match t with
    | '-' :: rest => (true, rest)
    | '+' :: rest => (false, rest)
    | t => (false, t)
  (magnitude? base t).map fun (n, rest) =>
    let value : Int := if negative then -n else n
    if value < minValue then ⟨minValue, false, rest⟩
    else if maxValue < value then ⟨maxValue, false, rest⟩
    else ⟨value, true, rest⟩

/-- The number that a whole text is, blanks around it left out. -/
def whole? (base : Nat) (t : Text) : Option Int :=
  match found? base t with
  | some f => if f.inRange && f.rest.all Text.isSpace then some f.value else none
  | none => none

def decimal? (t : Text) : Option Int := whole? 10 t

def maxCount : Int := 0x7FFFFFFF

def count? (t : Text) : Option Nat :=
  match decimal? t with
  | some n => if 0 ≤ n && n ≤ maxCount then some n.toNat else none
  | none => none

/-- The value of a variable in an arithmetic expression; one that is empty is zero. -/
def ofVariable? (t : Text) : Option Int :=
  match found? 0 t with
  | some f => if f.inRange && f.rest.all Text.isSpace then some f.value else none
  | none => if t.all Text.isSpace then some 0 else none

def inBase (base n : Nat) : Text := Nat.toDigits base n

end DaemonDialogue.Script.Number
