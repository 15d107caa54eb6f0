import DaemonDialogue.Script.Printing.Echo
import DaemonDialogue.Script.Printing.Real

/-!
# Formats

A format is text with escapes and conversions, each of which takes an argument. It is used
again as long as arguments are left; where one is missing, nothing or zero is in its place.
-/

namespace DaemonDialogue.Script.Printing

/-- How a conversion fills its field. -/
structure Layout where
  left : Bool := false
  zeros : Bool := false
  plus : Bool := false
  blank : Bool := false
  alternate : Bool := false
  width : Nat := 0
  precision : Option Nat := none
  deriving Repr

namespace Layout

def fill (l : Layout) (t : Text) : Text :=
  let missing := List.replicate (l.width - t.length) ' '
  if l.left then t ++ missing else missing ++ t

/-- A number in its field: what is before its digits, and the digits. -/
def fillNumber (l : Layout) (zeros : Bool) (head digits : Text) : Text :=
  if zeros && l.zeros && !l.left then
    head ++ List.replicate (l.width - head.length - digits.length) '0' ++ digits
  else l.fill (head ++ digits)

def sign (l : Layout) (negative : Bool) : Text :=
  if negative then ['-'] else if l.plus then ['+'] else if l.blank then [' '] else []

/-- The digits of a whole number, as many as asked for at least. -/
def digits (l : Layout) (base n : Nat) : Text :=
  if n == 0 && l.precision == some 0 then []
  else
    let t := Number.inBase base n
    List.replicate (l.precision.getD 1 - t.length) '0' ++ t

def signed (l : Layout) (n : Int) : Text :=
  l.fillNumber l.precision.isNone (l.sign (n < 0)) (l.digits 10 n.natAbs)

def upper (t : Text) : Text :=
  t.map fun c => if Ascii.isLetter c && !Ascii.isUpper c then Char.ofNat (c.toNat - 32) else c

def unsigned (l : Layout) (kind : Char) (n : Nat) : Text :=
  let zeros := l.precision.isNone
  match kind with
  | 'o' =>
    let digits := l.digits 8 n
    l.fillNumber zeros [] (if l.alternate && digits.head? != some '0' then '0' :: digits else digits)
  | 'x' => l.fillNumber zeros (if l.alternate && n != 0 then ['0', 'x'] else []) (l.digits 16 n)
  | 'X' =>
    l.fillNumber zeros (if l.alternate && n != 0 then ['0', 'X'] else []) (upper (l.digits 16 n))
  | _ => l.fillNumber zeros [] (l.digits 10 n)

/-- A real number as one of the letters asks. -/
def real (l : Layout) (kind : Char) (x : Real) : Text :=
  let cased (t : Text) : Text := if Ascii.isUpper kind then upper t else t
  let sign := l.sign x.isNegative
  match x with
  | .nan _ => l.fill (sign ++ cased "nan".toList)
  | .infinite _ => l.fill (sign ++ cased "inf".toList)
  | .finite y =>
    let (num, den) := y.absQuotient
    let places := l.precision.getD 6
    match Ascii.lower kind with
    | 'f' => l.fillNumber true sign (Real.fixed num den places l.alternate)
    | 'e' => l.fillNumber true sign (cased (Real.scientific num den places l.alternate))
    | 'g' => l.fillNumber true sign (cased (Real.general num den places l.alternate))
    | _ =>
      let t := cased (Real.hexadecimal y l.precision l.alternate)
      l.fillNumber true (sign ++ t.take 2) (t.drop 2)

def cut (l : Layout) (t : Text) : Text :=
  match l.precision with
  | some n => t.take n
  | none => t

end Layout

inductive Flaw
  | noNumber (argument : Text)
  | behindNumber (argument : Text)
  | outOfRange (argument : Text)
  | badDirective (written : Text)
  | unfinished
  | excess (argument : Text)
  deriving DecidableEq, Repr, Inhabited

namespace Flaw

def message : Flaw → Text
  | noNumber argument => argument ++ ": expected numeric value".toList
  | behindNumber argument => argument ++ ": not completely converted".toList
  | outOfRange argument => argument ++ ": Numerical result out of range".toList
  | badDirective written => written ++ ": invalid directive".toList
  | unfinished => "missing format character".toList
  | excess _ => []

def programMessage : Flaw → Text
  | noNumber argument => '\'' :: argument ++ "': expected a numeric value".toList
  | behindNumber argument => '\'' :: argument ++ "': value not completely converted".toList
  | outOfRange argument => '\'' :: argument ++ "': Numerical result out of range".toList
  | badDirective written => written ++ ": invalid conversion specification".toList
  | unfinished => "%: invalid conversion specification".toList
  | excess argument => "warning: ignoring excess arguments, starting with '".toList ++ argument ++ ['\'']

end Flaw

/-- What a format writes: its text, what it warns of, and what it stops at. The program of the same
name knows more escapes. -/
structure Printed where
  text : Text := []
  warnings : List Flaw := []
  fault : Option Flaw := none
  program : Bool := false
  ended : Bool := false
  left : List Text := []
  deriving Repr, Inhabited

namespace Printed

def add (p : Printed) (t : Text) : Printed := { p with text := t.reverse ++ p.text }

def take (p : Printed) : Text × Printed := (p.left.headD [], { p with left := p.left.drop 1 })

/-- What is said of an argument that is not wholly a number. -/
def check (p : Printed) (argument rest : Text) (inRange : Bool) : Printed :=
  let warn (f : Flaw) : Printed := { p with warnings := p.warnings ++ [f] }
  if !rest.isEmpty then warn (.behindNumber argument)
  else if !inRange then warn (.outOfRange argument)
  else p

def expectedNumber (p : Printed) (argument : Text) : Printed :=
  if argument.isEmpty then p else { p with warnings := p.warnings ++ [.noNumber argument] }

def quoted? (argument : Text) : Option Nat :=
  match argument with
  | '"' :: rest | '\'' :: rest => some ((rest.headD '\x00').toNat)
  | _ => none

/-- The next argument as a whole number with its sign. -/
def takeInt (p : Printed) : Int × Printed :=
  let (argument, p) := p.take
  match quoted? argument with
  | some n => (n, p)
  | none =>
    match Number.found? 0 argument with
    | some f => (f.value, p.check argument f.rest f.inRange)
    | none => (0, p.expectedNumber argument)

/-- The number of values of whole numbers. -/
def modulus : Int := 0x10000000000000000

/-- The next argument as a whole number without a sign; one below zero counts from the end. -/
def takeNat (p : Printed) : Nat × Printed :=
  let (argument, p) := p.take
  match quoted? argument with
  | some n => (n, p)
  | none =>
    let t := argument.dropWhile Text.isSpace
    let (negative, digits) := match t with
      | '-' :: rest => (true, rest)
      | '+' :: rest => (false, rest)
      | t => (false, t)
    match Number.magnitude? 0 digits with
    | some (n, rest) =>
      if modulus ≤ n then ((modulus - 1).toNat, p.check argument rest false)
      else
        let n : Int := if negative then (-(n : Int)) % modulus else n
        (n.toNat, p.check argument rest true)
    | none => (0, p.expectedNumber argument)

def takeReal (p : Printed) : Real × Printed :=
  let (argument, p) := p.take
  match quoted? argument with
  | some n => ((Real.ofQuotient false n 1).1, p)
  | none =>
    match Real.found? argument with
    | some f => (f.value, p.check argument f.rest f.inRange)
    | none => (Real.zero false, p.expectedNumber argument)

end Printed

/-- The width or precision at the beginning of a text, perhaps from an argument, and the rest. -/
def measure (p : Printed) (t : Text) : Option Int × Printed × Text :=
  match t with
  | '*' :: rest =>
    let (n, p) := p.takeInt
    (some (n.bmod 0x100000000), p, rest)
  | t =>
    let digits := t.takeWhile fun c => Ascii.isDigit c || c == '*'
    let value := Ascii.digitsValue (digits.filter Ascii.isDigit)
    (if digits.isEmpty then none else some value, p, t.drop digits.length)

def layout (p : Printed) (t : Text) : Layout × Printed × Text :=
  let isFlag (c : Char) : Bool := "#-+ 0".toList.contains c
  let flags := t.takeWhile isFlag
  let (width, p, t) := measure p (t.dropWhile isFlag)
  let width := width.getD 0
  let l : Layout :=
    { left := flags.contains '-' || width < 0, zeros := flags.contains '0'
      plus := flags.contains '+', blank := flags.contains ' ', alternate := flags.contains '#'
      width := width.natAbs }
  match t with
  | '.' :: t =>
    let (precision, p, t) := measure p t
    let precision := precision.getD 0
    ({ l with precision := if precision < 0 then none else some precision.toNat }, p, t)
  | t => (l, p, t)

def convert (l : Layout) (kind : Char) (written : Text) (p : Printed) : Printed :=
  if "di".toList.contains kind then
    let (n, p) := p.takeInt
    p.add (l.signed n)
  else if "ouxX".toList.contains kind then
    let (n, p) := p.takeNat
    p.add (l.unsigned kind n)
  else if "aAeEfFgG".toList.contains kind then
    let (x, p) := p.takeReal
    p.add (l.real kind x)
  else
    match kind with
    | 's' =>
      let (t, p) := p.take
      p.add (l.fill (l.cut t))
    | 'c' =>
      let (t, p) := p.take
      p.add (l.fill [t.headD '\x00'])
    | 'b' =>
      let (t, p) := p.take
      let (t, ended) := if p.program then unescapeFully (t.length + 1) t else unescape t
      { p.add (l.fill (l.cut t)) with ended }
    | _ => { p with fault := some (.badDirective written) }

/-- What is behind a backslash in a format of the program: the text that it stands for and the rest,
or none where it ends all output. -/
def programEscape (t : Text) : Option (Text × Text) :=
  match t with
  | 'c' :: _ => none
  | '"' :: rest => some (['"'], rest)
  | 'x' :: rest =>
    match digitsIn 16 2 rest with
    | some (c, rest) => some ([c], rest)
    | none => some (['\\', 'x'], rest)
  | 'u' :: rest => some (universal 'u' 4 rest)
  | 'U' :: rest => some (universal 'U' 8 rest)
  | t =>
    let (c, rest) := escape t
    some ([c], rest)
where
  /-- A character by its number, which is only shown as it is below 128. -/
  universal (letter : Char) (width : Nat) (rest : Text) : Text × Text :=
    let digits := rest.take width
    if digits.length < width || !digits.all (fun c => (Ascii.hexDigit? c).isSome) then
      (['\\', letter], rest)
    else
      let value := digits.foldl (fun n c => n * 16 + (Ascii.hexDigit? c).getD 0) 0
      let shown := Layout.upper digits
      (if value < 128 then [Char.ofNat value] else '\\' :: letter :: shown, rest.drop width)

/-- One use of a format; `fuel` bounds its length. -/
def formatOnce : Nat → Text → Printed → Printed
  | 0, _, p => p
  | _, [], p => p
  | fuel + 1, '\\' :: rest, p =>
    if p.program then
      match programEscape rest with
      | some (t, rest) => formatOnce fuel rest (p.add t)
      | none => { p with ended := true }
    else
      let (c, rest) := escape rest
      formatOnce fuel rest (p.add [c])
  | fuel + 1, '%' :: '%' :: rest, p => formatOnce fuel rest (p.add ['%'])
  | fuel + 1, '%' :: start, p =>
    match layout p start with
    | (_, p, []) => { p with fault := some .unfinished }
    | (l, p, kind :: rest) =>
      let written := '%' :: start.take (start.length - rest.length)
      let p := convert l kind written p
      if p.fault.isSome || p.ended then p else formatOnce fuel rest p
  | fuel + 1, c :: rest, p => formatOnce fuel rest (p.add [c])

/-- A format used until no arguments are left. -/
def formatAll (format : Text) : Nat → Printed → Printed
  | 0, p => p
  | fuel + 1, p =>
    let before := p.left.length
    let p := formatOnce (format.length + 1) format p
    if p.fault.isSome || p.ended || p.left.isEmpty || p.left.length == before then p
    else formatAll format fuel p

def printf (format : Text) (arguments : List Text) : Printed :=
  let p := formatAll format (arguments.length + 1) { left := arguments }
  { p with text := p.text.reverse }

def printfProgram (format : Text) (arguments : List Text) : Printed :=
  let p := formatAll format (arguments.length + 1) { left := arguments, program := true }
  let excess := match p.fault, p.left with
    | none, a :: _ => if p.ended then [] else [.excess a]
    | _, _ => []
  { p with text := p.text.reverse, warnings := p.warnings ++ excess }

end DaemonDialogue.Script.Printing
