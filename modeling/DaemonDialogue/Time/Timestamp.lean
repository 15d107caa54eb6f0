import DaemonDialogue.Text.Blank
import DaemonDialogue.Text.Numeral

/-!
# Dates and times

A timestamp is a day of the calendar and a time of that day in UTC. A leap second
is written as second 60. Reading takes an offset to UTC into account, which moves
the time by less than a day and the date by at most one.
-/

namespace DaemonDialogue

structure Timestamp where
  year : Int
  month : Nat
  day : Nat
  hour : Nat
  minute : Nat
  second : Nat
  nano : Nat
  deriving DecidableEq, Repr, Inhabited

namespace Timestamp

/-- The first moment of 1970. -/
def epoch : Timestamp := ⟨1970, 1, 1, 0, 0, 0, 0⟩

def isLeapYear (year : Int) : Bool :=
  year % 4 == 0 && (year % 100 != 0 || year % 400 == 0)

def daysIn (year : Int) (month : Nat) : Nat :=
  if month == 2 then if isLeapYear year then 29 else 28
  else if month == 4 || month == 6 || month == 9 || month == 11 then 30
  else 31

/-- Do the fields name a moment? -/
def IsValid (t : Timestamp) : Prop :=
  1 ≤ t.month ∧ t.month ≤ 12 ∧ 1 ≤ t.day ∧ t.day ≤ daysIn t.year t.month ∧
    t.hour < 24 ∧ t.minute < 60 ∧ t.second ≤ 60 ∧ t.nano < 1000000000

instance (t : Timestamp) : Decidable t.IsValid := by
  unfold IsValid
  infer_instance

def nextDay (t : Timestamp) : Timestamp :=
  if t.day < daysIn t.year t.month then { t with day := t.day + 1 }
  else if t.month < 12 then { t with month := t.month + 1, day := 1 }
  else { t with year := t.year + 1, month := 1, day := 1 }

def previousDay (t : Timestamp) : Timestamp :=
  if 1 < t.day then { t with day := t.day - 1 }
  else if 1 < t.month then
    { t with month := t.month - 1, day := daysIn t.year (t.month - 1) }
  else { t with year := t.year - 1, month := 12, day := 31 }

/-- The moment in UTC of a local time `minutes` ahead of it. -/
def withoutOffset (t : Timestamp) (minutes : Int) : Timestamp :=
  let total : Int := t.hour * 60 + t.minute - minutes
  let moved := if total < 0 then t.previousDay else if 1440 ≤ total then t.nextDay else t
  let ofDay := (total % 1440).toNat
  { moved with hour := ofDay / 60, minute := ofDay % 60 }

/-- The moment a number of milliseconds after the first of 1970. The days are counted in eras of
four hundred years that begin with March. -/
def ofMillis (millis : Nat) : Timestamp :=
  let days := millis / 86400000 + 719468
  let era := days / 146097
  let ofEra := days % 146097
  let yearOfEra := (ofEra - ofEra / 1460 + ofEra / 36524 - ofEra / 146096) / 365
  let ofYear := ofEra - (365 * yearOfEra + yearOfEra / 4 - yearOfEra / 100)
  let march := (5 * ofYear + 2) / 153
  let month := if march < 10 then march + 3 else march - 9
  let seconds := millis / 1000
  { year := yearOfEra + era * 400 + (if month ≤ 2 then 1 else 0)
    month
    day := ofYear - (153 * march + 2) / 5 + 1
    hour := seconds / 3600 % 24
    minute := seconds / 60 % 60
    second := seconds % 60
    nano := millis % 1000 * 1000000 }

/-! ## Writing -/

/-- A year: four digits, and with a sign outside of four digits. -/
def yearText (year : Int) : String :=
  if 0 ≤ year ∧ year ≤ 9999 then Numeral.padded 4 year.toNat
  else if year < 0 then "-" ++ Numeral.padded 4 (-year).toNat
  else "+" ++ Numeral.padded 4 year.toNat

/-- The fraction of a second in as many groups of three digits as it needs. -/
def fractionText (nano : Nat) : String :=
  if nano == 0 then ""
  else if nano % 1000000 == 0 then "." ++ Numeral.padded 3 (nano / 1000000)
  else if nano % 1000 == 0 then "." ++ Numeral.padded 6 (nano / 1000)
  else "." ++ Numeral.padded 9 nano

/-- A date and time of the internet, in UTC. -/
def render (t : Timestamp) : String :=
  yearText t.year ++ "-" ++ Numeral.padded 2 t.month ++ "-" ++ Numeral.padded 2 t.day ++ "T" ++
    Numeral.padded 2 t.hour ++ ":" ++ Numeral.padded 2 t.minute ++ ":" ++
    Numeral.padded 2 t.second ++ fractionText t.nano ++ "Z"

/-! ## Reading -/

abbrev Reader (α : Type) := List Char → Option (α × List Char)

def number (width : Nat) : Reader Nat := fun text =>
  let text := text.dropWhile isBlank
  match (text.take width).takeWhile Ascii.isDigit with
  | [] => none
  | digits => some (Ascii.digitsValue digits, text.drop digits.length)

/-- A year: four digits at most, or a sign and any number of them. -/
def calendarYear : Reader Int := fun text =>
  match text.dropWhile isBlank with
  | '-' :: rest =>
    match rest.takeWhile Ascii.isDigit with
    | [] => none
    | digits => some (-(Ascii.digitsValue digits : Int), rest.drop digits.length)
  | '+' :: rest =>
    match rest.takeWhile Ascii.isDigit with
    | [] => none
    | digits => some ((Ascii.digitsValue digits : Int), rest.drop digits.length)
  | text => (number 4 text).map fun (n, rest) => ((n : Int), rest)

def mark (c : Char) : Reader Unit := fun text =>
  match text.dropWhile isBlank with
  | d :: rest => if c == d then some ((), rest) else none
  | [] => none

/-- The fraction of a second in nanoseconds, if there is one; places beyond the ninth are dropped. -/
def fraction : Reader Nat := fun text =>
  match text with
  | '.' :: rest =>
    match rest.takeWhile Ascii.isDigit with
    | [] => none
    | digits =>
      let kept := digits.take 9
      some (Ascii.digitsValue kept * Nat.pow 10 (9 - kept.length), rest.drop digits.length)
  | _ => some (0, text)

/-- Two digits, the first below `bound`. -/
def twoDigits (bound : Nat) : Reader Nat := fun text =>
  match text with
  | a :: b :: rest =>
    match Ascii.digit? a, Ascii.digit? b with
    | some x, some y => if x < bound then some (x * 10 + y, rest) else none
    | _, _ => none
  | _ => none

def signedOffset (sign : Int) : Reader Int := fun text => do
  let (hours, rest) ← twoDigits 10 text
  let rest := rest.dropWhile fun c => c == ':' || isBlank c
  let (minutes, rest) ← twoDigits 6 rest
  if hours < 24 then some (sign * (hours * 60 + minutes : Nat), rest) else none

def offset : Reader Int := fun text =>
  match text.dropWhile isBlank with
  | a :: b :: c :: rest =>
    if [Ascii.lower a, Ascii.lower b, Ascii.lower c] == ['u', 't', 'c'] then some (0, rest)
    else signed (a :: b :: c :: rest)
  | text => signed text
where
  signed : Reader Int
    | 'Z' :: rest => some (0, rest)
    | 'z' :: rest => some (0, rest)
    | '+' :: rest => signedOffset 1 rest
    | '-' :: rest => signedOffset (-1) rest
    | '\u2212' :: rest => signedOffset (-1) rest
    | _ => none

/-- A letter or blank between date and time. -/
def separator : Reader Unit := fun text =>
  match text with
  | c :: rest => if c == 'T' || c == 't' || c == ' ' then some ((), rest) else none
  | [] => none

def inCalendar (t : Timestamp) : Bool :=
  -262143 ≤ t.year && t.year ≤ 262142

/-- A date and time of the internet, of which both the local and the UTC date lie in the calendar;
blanks between its parts are allowed. -/
def read (text : String) : Option Timestamp := do
  let (year, rest) ← calendarYear text.toList
  let ((), rest) ← mark '-' rest
  let (month, rest) ← number 2 rest
  let ((), rest) ← mark '-' rest
  let (day, rest) ← number 2 rest
  let ((), rest) ← separator rest
  let (hour, rest) ← number 2 rest
  let ((), rest) ← mark ':' rest
  let (minute, rest) ← number 2 rest
  let ((), rest) ← mark ':' rest
  let (second, rest) ← number 2 rest
  let (nano, rest) ← fraction rest
  let (minutes, rest) ← offset rest
  let t : Timestamp := ⟨year, month, day, hour, minute, second, nano⟩
  let utc := t.withoutOffset minutes
  if (rest.dropWhile isBlank).isEmpty ∧ t.IsValid ∧ t.inCalendar ∧ utc.inCalendar then some utc
  else none

/-- Day and time without the year, as they stand in journals. -/
def journalText (t : Timestamp) : String :=
  Numeral.padded 2 t.month ++ "-" ++ Numeral.padded 2 t.day ++ "|" ++ Numeral.padded 2 t.hour ++
    ":" ++ Numeral.padded 2 t.minute ++ ":" ++ Numeral.padded 2 t.second ++ "." ++
    Numeral.padded 3 (t.nano / 1000000)

end Timestamp
end DaemonDialogue
