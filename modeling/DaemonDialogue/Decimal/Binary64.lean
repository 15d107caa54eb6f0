/-!
# Binary floating point numbers of 64 bits

A finite number is a sign, a mantissa below `2 ^ 53` and a power of two. Reading
a decimal takes the nearest such number, writing one takes the fewest decimal
digits that read back as it.
-/

namespace DaemonDialogue

/-- The number `± mantissa * 2 ^ exponent`. -/
structure Binary64 where
  negative : Bool
  mantissa : Nat
  exponent : Int
  deriving DecidableEq, Repr, Inhabited

namespace Binary64

def minExponent : Int := -1074
def maxExponent : Int := 971

/-- A quotient rounded to the nearest natural number, a half to the even one. -/
def roundDiv (num den : Nat) : Nat :=
  let q := num / den
  let twice := 2 * (num % den)
  if twice < den then q
  else if den < twice then q + 1
  else if q % 2 == 0 then q else q + 1

/-- What mantissas stay below: two to the power of 53. -/
def mantissaBound : Nat := 0x20000000000000

/-- A positive quotient over a power of two, rounded. -/
def scaled (num den : Nat) (exponent : Int) : Nat :=
  if 0 ≤ exponent then roundDiv num (den * Nat.pow 2 exponent.toNat)
  else roundDiv (num * Nat.pow 2 (-exponent).toNat) den

/-- The number nearest to a positive quotient, if it is finite. -/
def ofQuotient? (negative : Bool) (num den : Nat) : Option Binary64 :=
  let guess : Int := (num.log2 : Int) - (den.log2 : Int) - 53
  let guess := max guess minExponent
  let guess := if mantissaBound ≤ scaled num den guess then guess + 1 else guess
  let guess := if mantissaBound ≤ scaled num den guess then guess + 1 else guess
  let mantissa := scaled num den guess
  if maxExponent < guess then none else some ⟨negative, mantissa, guess⟩

/-- The numerator and denominator of `digits * 10 ^ exponent`. -/
def quotient (digits : Nat) (exponent : Int) : Nat × Nat :=
  if 0 ≤ exponent then (digits * Nat.pow 10 exponent.toNat, 1)
  else (digits, Nat.pow 10 (-exponent).toNat)

/-- The number nearest to `± digits * 10 ^ exponent`, if it is finite. -/
def ofDecimal? (negative : Bool) (digits : Nat) (exponent : Int) : Option Binary64 :=
  let magnitude : Int := exponent + ((Nat.toDigits 10 digits).length : Int)
  if digits == 0 || magnitude < -400 then some ⟨negative, 0, minExponent⟩
  else if 400 < magnitude then none
  else
    let (num, den) := quotient digits exponent
    ofQuotient? negative num den

def absQuotient (x : Binary64) : Nat × Nat :=
  if 0 ≤ x.exponent then (x.mantissa * Nat.pow 2 x.exponent.toNat, 1)
  else (x.mantissa, Nat.pow 2 (-x.exponent).toNat)

/-- The number nearest to a quotient of natural numbers, if it is finite. -/
def ofRatio? (num den : Nat) : Option Binary64 :=
  if num == 0 then some ⟨false, 0, minExponent⟩ else ofQuotient? false num den

/-- The product of two absolute values, if it is finite. -/
def mul? (x y : Binary64) : Option Binary64 :=
  let (a, b) := x.absQuotient
  let (c, d) := y.absQuotient
  ofRatio? (a * c) (b * d)

/-- The quotient of two absolute values, of which the second is not zero. -/
def div? (x y : Binary64) : Option Binary64 :=
  let (a, b) := x.absQuotient
  let (c, d) := y.absQuotient
  ofRatio? (a * d) (b * c)

/-- The number nearest to a power of ten, which must not be beyond all. -/
def power10 (n : Nat) : Binary64 :=
  (ofRatio? (Nat.pow 10 n) 1).getD ⟨false, 0, minExponent⟩

/-- How many decimal places a quotient below one has before its first digit. -/
def leadingPlaces (num den : Nat) : Nat → Nat
  | 0 => 0
  | fuel + 1 => if den ≤ num then 0 else leadingPlaces (num * 10) den fuel + 1

/-- The power of ten of the first digit of a positive quotient. -/
def decimalExponent (num den : Nat) : Int :=
  if den ≤ num then ((Nat.toDigits 10 (num / den)).length : Int) - 1
  else -(leadingPlaces num den 400 : Int)

/-- The decimal of `n` digits that reads back as `x`, the nearer one of two. -/
def withDigits? (x : Binary64) (n : Nat) : Option (Nat × Int) :=
  let (num, den) := x.absQuotient
  let power : Int := decimalExponent num den - (n : Int) + 1
  let (num, den) :=
    if 0 ≤ power then (num, den * Nat.pow 10 power.toNat)
    else (num * Nat.pow 10 (-power).toNat, den)
  let nearest := roundDiv num den
  let below := num / den
  let readsBack (d : Nat) : Bool := ofDecimal? x.negative d power == some x
  ([nearest, below, below + 1].find? readsBack).map fun d => (d, power)

def dropZeros : Nat → Nat → Int → Nat × Int
  | 0, digits, power => (digits, power)
  | fuel + 1, digits, power =>
    if digits % 10 == 0 then dropZeros fuel (digits / 10) (power + 1) else (digits, power)

/-- The decimal with the fewest digits that reads back as a number other than zero. -/
def shortest (x : Binary64) : Nat × Int :=
  match (List.range 17).findSome? fun n => x.withDigits? (n + 1) with
  | some (digits, power) => dropZeros 20 digits power
  | none => (0, 0)

/-- The text of a number: positional where the point falls among its first sixteen
places or at most five before them, and with an exponent otherwise. -/
def render (x : Binary64) : String :=
  let sign := if x.negative then "-" else ""
  if x.mantissa == 0 then sign ++ "0.0"
  else
    let (digits, power) := x.shortest
    let chars := Nat.toDigits 10 digits
    let point : Int := chars.length + power
    let zeros (n : Int) : List Char := List.replicate n.toNat '0'
    let body : List Char :=
      if 0 ≤ power ∧ point ≤ 16 then chars ++ zeros power ++ ['.', '0']
      else if 0 < point ∧ point ≤ 16 then
        chars.take point.toNat ++ '.' :: chars.drop point.toNat
      else if -5 < point ∧ point ≤ 0 then '0' :: '.' :: zeros (-point) ++ chars
      else
        let exponent := (if 0 < point then ['+'] else []) ++ (toString (point - 1)).toList
        match chars with
        | [c] => c :: 'e' :: exponent
        | c :: rest => c :: '.' :: rest ++ 'e' :: exponent
        | [] => []
    sign ++ String.ofList body

end Binary64
end DaemonDialogue
