import DaemonDialogue.Script.Printing.Format
import DaemonDialogue.Script.Process
import DaemonDialogue.Script.Program.Options

/-!
# Numbers of programs

Sequences of decimal numbers, and spans of time.
-/

namespace DaemonDialogue.Script.Program

/-- A decimal number: its value without the point and how many of its digits are behind it, how many
places it asks for when it is written, and how many characters it takes. -/
structure Decimal where
  value : Int
  scale : Nat
  places : Nat := 0
  width : Nat := 0
  deriving Repr

namespace Decimal

/-- The value with so many digits behind the point. -/
def scaled (d : Decimal) (scale : Nat) : Int := d.value * Nat.pow 10 (scale - d.scale)

/-- How many places a written number asks for, and how many characters it takes without an exponent;
one in hexadecimal asks for nothing. -/
def measure (written : Text) : Nat × Nat :=
  if written.any fun c => c == 'x' || c == 'X' then (0, 0)
  else
    let isExponent (c : Char) : Bool := c == 'e' || c == 'E'
    let body := written.takeWhile fun c => !isExponent c
    let e := (Printing.Real.exponent 'e' (written.drop body.length)).1
    let whole := body.takeWhile (· != '.')
    let pointed := body.contains '.'
    let fraction := (body.dropWhile (· != '.')).drop 1
    let endsInDigit := whole.getLast?.any Ascii.isDigit
    let width : Int := body.length +
      (if !pointed then 0 else if fraction.isEmpty then -1 else if endsInDigit then 0 else 1)
    let places := fraction.length
    if e < 0 then
      let undone : Int := if pointed then (if fraction.isEmpty then 1 else 0) else 1
      (places + e.natAbs, (width + undone + e.natAbs).toNat)
    else
      let places' := places - min places e.natAbs
      let discount : Int := if pointed && places' == 0 && !fraction.isEmpty then 1 else 0
      (places', (width - discount + (e.natAbs - min places e.natAbs)).toNat)

def ofText? (t : Text) : Option Decimal :=
  let start := t.dropWhile Text.isSpace
  let (negative, digits) := match start with
    | '-' :: rest => (true, rest)
    | '+' :: rest => (false, rest)
    | t => (false, t)
  let (places, width) := measure (start.filter (· != '+'))
  let signed (n : Nat) : Int := if negative then -n else n
  match digits with
  | '0' :: c :: rest =>
    if c == 'x' || c == 'X' then
      match Printing.Real.mantissa? 16 rest with
      | some (n, 0, []) => some { value := signed n, scale := 0 }
      | _ => none
    else plain signed places width digits
  | digits => plain signed places width digits
where
  plain (signed : Nat → Int) (places width : Nat) (digits : Text) : Option Decimal :=
    match Printing.Real.mantissa? 10 digits with
    | none => none
    | some (n, behind, rest) =>
      let (e, rest) := Printing.Real.exponent 'e' rest
      let scale : Int := (behind : Int) - Printing.Real.clamp e
      if !rest.isEmpty then none
      else if 0 ≤ scale then some { value := signed n, scale := scale.toNat, places, width }
      else some { value := signed n * Nat.pow 10 (-scale).toNat, scale := 0, places, width }

end Decimal

/-- A whole number with a point before its last digits. -/
def withPoint (n : Int) (places : Nat) : Text :=
  (if n < 0 then ['-'] else []) ++ Printing.Real.withPoint n.natAbs places false

def filled (width : Nat) (t : Text) : Text :=
  let zeros := List.replicate (width - t.length) '0'
  match t with
  | '-' :: digits => '-' :: zeros ++ digits
  | t => zeros ++ t

namespace Sequence

def grammar : Grammar where
  letters := Grammar.ofLetters "w" "fs"
  names := [("equal-width", 'w'), ("format", 'f'), ("separator", 's')]
  stopsAtOperand := true

/-- The arguments with everything from the first number on kept apart from the options. -/
def guarded : List Text → List Text
  | [] => []
  | ['-', 's'] :: value :: rest => ['-', 's'] :: value :: guarded rest
  | ['-', 'f'] :: value :: rest => ['-', 'f'] :: value :: guarded rest
  | argument :: rest =>
    match argument with
    | '-' :: c :: _ =>
      if c == '.' || Ascii.isDigit c then ['-', '-'] :: argument :: rest
      else argument :: guarded rest
    | _ => argument :: rest

/-- A format behind the first directive that is not a percent sign. -/
def behindDirective : Text → Option Text
  | [] => none
  | '%' :: '%' :: rest => behindDirective rest
  | '%' :: rest => some rest
  | _ :: rest => behindDirective rest

/-- Why a format cannot write numbers; it has to hold one directive for those. -/
def formatFault? (format : Text) : Option Text :=
  let say (t : String) : Option Text :=
    some ("format ".toList ++ Grammar.quote format ++ ' ' :: t.toList)
  match behindDirective format with
  | none => say "has no % directive"
  | some t =>
    let t := t.dropWhile fun c => "-+#0 '".toList.contains c
    let t := t.dropWhile Ascii.isDigit
    let t := match t with
      | '.' :: rest => rest.dropWhile Ascii.isDigit
      | t => t
    let t := match t with
      | 'L' :: rest => rest
      | t => t
    match t with
    | [] => say "ends in %"
    | c :: rest =>
      if !"efgaEFGA".toList.contains c then say (String.ofList ("has unknown %".toList ++ c :: " directive".toList))
      else if (behindDirective rest).isSome then say "has too many % directives"
      else none

/-- The numbers from `first` to `last` in steps, and how they are written. -/
def series (p : Parsed) (first step last : Decimal) : Chore.Series :=
  let places := max first.places step.places
  let scale := max (max first.scale step.scale) (max last.scale places)
  let from_ := first.scaled scale
  let by_ := step.scaled scale
  let to_ := last.scaled scale
  let count := if 0 < by_ then (to_ - from_) / by_ + 1 else (from_ - to_) / (-by_) + 1
  let firstWidth := first.width + (places - first.places) + (if first.places = 0 && 0 < places then 1 else 0)
  let lastWidth := (last.width + places) - last.places + (if last.places = 0 && 0 < places then 1 else 0) -
    (if 0 < last.places && places = 0 then 1 else 0)
  { next := from_, step := by_, left := count.toNat, scale, places
    width := if p.has 'w' then max firstWidth lastWidth else 0
    format := p.argument? 'f', separator := (p.argument? 's').getD ['\n'] }

def text (s : Chore.Series) (n : Int) : Text :=
  let t := withPoint (n / Nat.pow 10 (s.scale - s.places)) s.places
  match s.format with
  | some format => (Printing.printf format [t]).text
  | none => filled s.width t

/-- The next numbers of a series, at most `count`, and the others. -/
def take (count : Nat) (s : Chore.Series) : Text × Chore.Series :=
  let n := min count s.left
  let ts := (List.range n).map fun (i : Nat) => text s (s.next + s.step * i)
  let before := if s.isFirst then [] else s.separator
  let ending := if n == s.left then ['\n'] else []
  (if n == 0 then [] else before ++ s.separator.intercalate ts ++ ending,
    { s with next := s.next + s.step * n, left := s.left - n, isFirst := false })

def ofArguments (name : Text) (arguments : List Text) : Except Result Chore.Series := do
  let misused (e : Text) : Except Result Chore.Series := .error (.misused name e 1)
  match grammar.parse (guarded arguments) with
  | .error e => misused e
  | .ok p =>
    let one : Decimal := { value := 1, scale := 0, width := 1 }
    let read (t : Text) : Except Result Decimal :=
      match Decimal.ofText? t with
      | some d => .ok d
      | none => .error (.misused name ("invalid floating point argument: ".toList ++ Grammar.quote t) 1)
    let check : Except Result Unit :=
      match (p.argument? 'f').bind formatFault? with
      | some e => .error { complaints := complaint name e, status := 1 }
      | none =>
        if (p.argument? 'f').isSome && p.has 'w' then
          .error (.misused name
            "format string may not be specified when printing equal width strings".toList 1)
        else .ok ()
    match p.operands with
    | [] => misused "missing operand".toList
    | [last] =>
      check
      return series p one one (← read last)
    | [first, last] =>
      check
      let first ← read first
      return series p first one (← read last)
    | [first, step, last] =>
      check
      let first ← read first
      let d ← read step
      if d.value == 0 then misused ("invalid Zero increment value: ".toList ++ Grammar.quote step)
      else return series p first d (← read last)
    | _ :: _ :: _ :: extra :: _ => misused ("extra operand ".toList ++ Grammar.quote extra)

end Sequence

/-- A span of time in nanoseconds; none inside if it has no end. -/
def duration? (t : Text) : Option (Option Nat) :=
  let unit? (rest : Text) : Option Nat :=
    match rest with
    | [] | ['s'] => some 1
    | ['m'] => some 60
    | ['h'] => some 3600
    | ['d'] => some 86400
    | _ => none
  match Printing.Real.found? t with
  | none => none
  | some f =>
    match unit? f.rest, f.value with
    | none, _ => none
    | some _, .nan _ => none
    | some _, .infinite negative => if negative then none else some none
    | some unit, .finite x =>
      let (num, den) := x.absQuotient
      if x.negative && x.mantissa != 0 then none
      else some (some ((num * unit * 1000000000 + den - 1) / den))

/-- The time that some spans take together. -/
def durations? (ts : List Text) : Option (Option Nat) := do
  let all ← ts.mapM duration?
  return (all.mapM id).map Text.total

end DaemonDialogue.Script.Program
