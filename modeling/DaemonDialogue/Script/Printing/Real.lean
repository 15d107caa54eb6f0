import DaemonDialogue.Decimal.Binary64
import DaemonDialogue.Script.Number
import DaemonDialogue.Text.Cut

/-!
# Numbers with a point

Real numbers as formats know them: read from the beginning of a text, and written with a
point, with an exponent, whichever is shorter, or in hexadecimal.
-/

namespace DaemonDialogue.Script.Printing

inductive Real
  | nan (negative : Bool)
  | infinite (negative : Bool)
  | finite (x : Binary64)
  deriving DecidableEq, Repr, Inhabited

namespace Real

def zero (negative : Bool) : Real := .finite ⟨negative, 0, Binary64.minExponent⟩

def isNegative : Real → Bool
  | nan negative | infinite negative => negative
  | finite x => x.negative

/-- What was found at the beginning of a text: a number, whether it was within the range, and
what is behind it. -/
structure Found where
  value : Real
  inRange : Bool
  rest : Text

/-- Does a word in letters of either case begin a text? What is behind it. -/
def behindWord? (word : String) (t : Text) : Option Text :=
  Cut.behind? word.toList ((t.take word.length).map Ascii.lower) |>.map fun _ => t.drop word.length

/-- The digits of a base around a point: their value, how many are behind it, and the rest. -/
def mantissa? (base : Nat) (t : Text) : Option (Nat × Nat × Text) :=
  let isDigit (c : Char) : Bool := (Ascii.hexDigit? c).any (· < base)
  let whole := t.takeWhile isDigit
  let (part, rest) := match t.drop whole.length with
    | '.' :: rest => (rest.takeWhile isDigit, rest.dropWhile isDigit)
    | rest => ([], rest)
  if whole.isEmpty && part.isEmpty then none
  else
    let value := (whole ++ part).foldl (fun n c => n * base + (Ascii.hexDigit? c).getD 0) 0
    some (value, part.length, rest)

/-- The exponent behind one of two letters, if there is one, and the rest. -/
def exponent (letter : Char) (t : Text) : Int × Text :=
  match t with
  | c :: rest =>
    if Ascii.lower c == letter then
      let (negative, digits) := match rest with
        | '-' :: digits => (true, digits)
        | '+' :: digits => (false, digits)
        | digits => (false, digits)
      let shown := digits.takeWhile Ascii.isDigit
      if shown.isEmpty then (0, t)
      else
        let n : Int := Ascii.digitsValue (shown.take 9)
        (if negative then -n else n, digits.drop shown.length)
    else (0, t)
  | [] => (0, [])

/-- A quotient as a real number, and whether it is within the range of those. -/
def ofQuotient (negative : Bool) (num den : Nat) : Real × Bool :=
  if num == 0 then (zero negative, true)
  else
    match Binary64.ofQuotient? negative num den with
    | none => (.infinite negative, false)
    | some x =>
      let (a, b) := x.absQuotient
      (.finite x, !(x.mantissa < Binary64.mantissaBound / 2 && a * den != num * b))

/-- A power that is far beyond the range of real numbers is as good as this one. -/
def clamp (e : Int) : Int := max (-5000) (min 5000 e)

def magnitude? (negative : Bool) (t : Text) : Option Found :=
  let inHex := match t with
    | '0' :: x :: rest => if x == 'x' || x == 'X' then mantissa? 16 rest else none
    | _ => none
  match inHex with
  | some (m, places, rest) =>
    let (e, rest) := exponent 'p' rest
    let e := clamp (e - 4 * (places : Int))
    let (value, inRange) :=
      if 0 ≤ e then ofQuotient negative (m * Nat.pow 2 e.toNat) 1
      else ofQuotient negative m (Nat.pow 2 (-e).toNat)
    some ⟨value, inRange, rest⟩
  | none =>
    (mantissa? 10 t).map fun (m, places, rest) =>
      let (e, rest) := exponent 'e' rest
      let (num, den) := Binary64.quotient m (clamp (e - (places : Int)))
      let (value, inRange) := ofQuotient negative num den
      ⟨value, inRange, rest⟩

def found? (t : Text) : Option Found :=
  let t := t.dropWhile Text.isSpace
  let (negative, t) := match t with
    | '-' :: rest => (true, rest)
    | '+' :: rest => (false, rest)
    | t => (false, t)
  match behindWord? "infinity" t, behindWord? "inf" t, behindWord? "nan" t with
  | some rest, _, _ | none, some rest, _ => some ⟨.infinite negative, true, rest⟩
  | none, none, some rest =>
    let inner := (rest.drop 1).takeWhile Text.isNameChar
    let rest := match rest.head?, rest.drop (inner.length + 1) with
      | some '(', ')' :: behind => behind
      | _, _ => rest
    some ⟨.nan negative, true, rest⟩
  | none, none, none => magnitude? negative t

/-- A natural number with a point before some of its last digits. -/
def withPoint (n places : Nat) (keepPoint : Bool) : Text :=
  let digits := Text.ofNat n
  let digits := List.replicate (places + 1 - digits.length) '0' ++ digits
  let whole := digits.take (digits.length - places)
  if places == 0 then whole ++ if keepPoint then ['.'] else []
  else whole ++ '.' :: digits.drop (digits.length - places)

def fixed (num den places : Nat) (keepPoint : Bool) : Text :=
  withPoint (Binary64.roundDiv (num * Nat.pow 10 places) den) places keepPoint

/-- A quotient as one digit and some more, and the power of ten of the first. -/
def scientificDigits (num den places : Nat) : Nat × Int :=
  if num == 0 then (0, 0)
  else
    let e := Binary64.decimalExponent num den
    let scale := (places : Int) - e
    let n :=
      if 0 ≤ scale then Binary64.roundDiv (num * Nat.pow 10 scale.toNat) den
      else Binary64.roundDiv num (den * Nat.pow 10 (-scale).toNat)
    if n == Nat.pow 10 (places + 1) then (Nat.pow 10 places, e + 1) else (n, e)

/-- An exponent with its sign and at least two digits. -/
def exponentText (e : Int) : Text :=
  let digits := Text.ofNat e.natAbs
  (if e < 0 then '-' else '+') :: (List.replicate (2 - digits.length) '0' ++ digits)

def scientific (num den places : Nat) (keepPoint : Bool) : Text :=
  let (n, e) := scientificDigits num den places
  withPoint n places keepPoint ++ 'e' :: exponentText e

/-- A text with a point, without the zeros at its end. -/
def trimmed (t : Text) : Text :=
  if t.contains '.' then
    let t := (t.reverse.dropWhile (· == '0')).reverse
    if t.getLast? == some '.' then t.dropLast else t
  else t

/-- A quotient with some digits, in whichever form is shorter. -/
def general (num den digits : Nat) (full : Bool) : Text :=
  let digits := max 1 digits
  let (_, e) := scientificDigits num den (digits - 1)
  let tidy (t : Text) : Text := if full then t else trimmed t
  if -4 ≤ e && e < digits then tidy (fixed num den ((digits : Int) - 1 - e).toNat full)
  else
    let t := scientific num den (digits - 1) full
    tidy (t.takeWhile (· != 'e')) ++ t.dropWhile (· != 'e')

/-- A number in hexadecimal: a first digit, those behind the point, and a power of two. -/
def hexadecimal (x : Binary64) (places : Option Nat) (keepPoint : Bool) : Text :=
  let (mantissa, power) : Nat × Int :=
    if x.mantissa == 0 then (0, 0)
    else (x.mantissa, x.exponent + 52)
  let shown := match places with
    | some p => if p < 13 then Binary64.roundDiv mantissa (Nat.pow 16 (13 - p)) else mantissa * Nat.pow 16 (p - 13)
    | none => mantissa
  let count := places.getD 13
  let digits := Nat.toDigits 16 shown
  let digits := List.replicate (count + 1 - digits.length) '0' ++ digits
  let part := digits.drop (digits.length - count)
  let part := if places.isNone then (part.reverse.dropWhile (· == '0')).reverse else part
  let point := if part.isEmpty && !keepPoint then [] else ['.']
  let sign := if power < 0 then '-' else '+'
  "0x".toList ++ digits.take (digits.length - count) ++ point ++ part ++ 'p' :: sign :: Text.ofNat power.natAbs

end Real
end DaemonDialogue.Script.Printing
