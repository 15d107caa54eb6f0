import DaemonDialogue.Json.Draft
import DaemonDialogue.Text.Ascii

/-!
# Numbers of JSON texts

Integers within 64 bits stay exact. Any other number becomes a binary number in three
roundings: of its first digits, as many as fit into 64 bits, of a power of ten, and of
their product or quotient. So it may miss the nearest binary number by a little.
-/

namespace DaemonDialogue.Json

/-- The digits of a number as far as they count, and the power of ten they are scaled by. -/
structure Scaled where
  digits : Nat := 0
  exponent : Int := 0
  deriving DecidableEq, Repr

namespace Scaled

def maxDigits : Nat := 0xFFFFFFFFFFFFFFFF

/-- Adds the digits before the point. From the first that does not fit on they only scale. -/
def addWhole (s : Scaled) : List Char → Scaled
  | [] => s
  | c :: rest =>
    let digits := s.digits * 10 + (c.toNat - '0'.toNat)
    if s.exponent == 0 && digits ≤ maxDigits then addWhole { s with digits := digits } rest
    else addWhole { s with exponent := s.exponent + 1 } rest

/-- Adds the digits behind the point. From the first that does not fit on they do not count. -/
def addFraction (s : Scaled) : List Char → Scaled
  | [] => s
  | c :: rest =>
    let digits := s.digits * 10 + (c.toNat - '0'.toNat)
    if digits ≤ maxDigits then addFraction ⟨digits, s.exponent - 1⟩ rest else s

def maxExponent : Int := 0x7FFFFFFF

def addExponent (s : Scaled) (n : Int) : Scaled :=
  { s with exponent := max (-maxExponent - 1) (min maxExponent (s.exponent + n)) }

/-- The binary number; `steps` bounds how often it is divided by the greatest power of ten. -/
def toBinary? (negative : Bool) (steps : Nat) (x : Binary64) (exponent : Int) : Option Binary64 :=
  if exponent.natAbs ≤ 308 then
    let power := Binary64.power10 exponent.natAbs
    (if 0 ≤ exponent then x.mul? power else x.div? power).map fun y => { y with negative := negative }
  else if x.mantissa == 0 then some { x with negative := negative }
  else if 0 ≤ exponent then none
  else
    match steps with
    | 0 => some { x with negative := negative }
    | steps + 1 => do
      toBinary? negative steps (← x.div? (Binary64.power10 308)) (exponent + 308)

def real? (negative : Bool) (s : Scaled) : Option Binary64 := do
  toBinary? negative 4 (← Binary64.ofDecimal? false s.digits 0) s.exponent

end Scaled

/-- The exponent of a number: its sign and digits. -/
structure WrittenExponent where
  negative : Bool
  digits : List Char

def realNumber (negative : Bool) (s : Scaled) (exponent : Option WrittenExponent) : Draft :=
  let value? :=
    match exponent with
    | none => s.real? negative
    | some e =>
      let n : Int := Ascii.digitsValue e.digits
      if n ≤ Scaled.maxExponent then (s.addExponent (if e.negative then -n else n)).real? negative
      else if s.digits == 0 || e.negative then some ⟨negative, 0, Binary64.minExponent⟩
      else none
  match value? with
  | some x => .real x
  | none => .senseless

/-- A number without point and exponent: exact within 64 bits, signed or not, and not minus
zero. -/
def wholeNumber (negative : Bool) (s : Scaled) : Draft :=
  let n := s.digits
  if s.exponent != 0 then realNumber negative s none
  else if !negative then .integer n
  else if 0 < n && n ≤ 0x8000000000000000 then .integer (-(n : Int))
  else realNumber negative s none

def readDigits (text : List Char) : Option (List Char × List Char) :=
  match text.takeWhile Ascii.isDigit with
  | [] => none
  | digits => some (digits, text.dropWhile Ascii.isDigit)

/-- Reads the digits before the point: a zero stands alone. -/
def readWhole (text : List Char) : Option (List Char × List Char) :=
  match text with
  | '0' :: rest => if rest.head?.any Ascii.isDigit then none else some (['0'], rest)
  | _ => readDigits text

/-- Reads the point and the digits behind it, if there is a point. -/
def readFraction (text : List Char) : Option (List Char × List Char) :=
  match text with
  | '.' :: rest => readDigits rest
  | _ => some ([], text)

def readExponent (text : List Char) : Option (Option WrittenExponent × List Char) :=
  match text with
  | c :: rest =>
    if c == 'e' || c == 'E' then
      match rest with
      | '+' :: rest => (readDigits rest).map fun (ds, rest) => (some ⟨false, ds⟩, rest)
      | '-' :: rest => (readDigits rest).map fun (ds, rest) => (some ⟨true, ds⟩, rest)
      | _ => (readDigits rest).map fun (ds, rest) => (some ⟨false, ds⟩, rest)
    else some (none, text)
  | [] => some (none, [])

def readNumber (negative : Bool) (text : List Char) : Option (Draft × List Char) := do
  let (whole, rest) ← readWhole text
  let (fraction, rest) ← readFraction rest
  let (exponent, rest) ← readExponent rest
  let s := Scaled.addWhole {} whole
  if fraction.isEmpty && exponent.isNone then return (wholeNumber negative s, rest)
  else return (realNumber negative (s.addFraction fraction) exponent, rest)

end DaemonDialogue.Json
