import DaemonDialogue.Pattern.Flags

/-!
# Escapes of regular expressions

What may stand behind a backslash: a character, a kind of characters or an assertion.
In extended form blanks and comments may stand between the digits of a code point.
-/

namespace DaemonDialogue.Pattern

/-- What one element of a pattern can be. A character that was written by two digits and is not
ASCII would be a single byte where Unicode is off. -/
inductive Atom
  | char (c : Char) (asByte : Bool)
  | kind (letter : Char)
  | assert (assertion : Assertion)

def charOf? (n : Nat) : Option Char :=
  if n.isValidChar then some (Char.ofNat n) else none

/-- Reads digits of a code point up to a closing brace; `value?` is that of the ones before. -/
def readBraced (f : Flags) : Nat → Option Nat → List Char → Option (Char × List Char)
  | 0, _, _ => none
  | fuel + 1, value?, text =>
    match text with
    | [] => none
    | '\x7d' :: _ => do some (← charOf? (← value?), f.next text)
    | c :: _ => do readBraced f fuel (some (value?.getD 0 * 16 + (← Ascii.hexDigit? c))) (f.next text)

/-- Reads a number of digits of a code point. -/
def readFixed (f : Flags) : Nat → Nat → List Char → Option (Char × List Char)
  | 0, value, text => do some (← charOf? value, text)
  | width + 1, value, text =>
    match text with
    | [] => none
    | c :: _ => do readFixed f width (value * 16 + (← Ascii.hexDigit? c)) (f.next text)

/-- A code point in hexadecimal behind its letter: `width` digits, or any number of them in
braces. -/
def readHex (f : Flags) (fuel width : Nat) (text : List Char) : Option (Atom × List Char) :=
  match f.next text with
  | '\x7b' :: rest =>
    (readBraced f fuel none (f.skip rest)).map fun (c, rest) => (.char c false, rest)
  | rest =>
    (readFixed f width 0 rest).map fun (c, rest) => (.char c (width == 2 && 0x80 ≤ c.toNat), rest)

def isMeta (c : Char) : Bool :=
  "\\.+*?()|[]\x7b\x7d^$#&-~".toList.contains c

/-- May a character stand for itself behind a backslash? -/
def isEscapable (c : Char) : Bool :=
  isMeta c || (c.toNat < 0x80 && !Ascii.isAlphanumeric c && c != '<' && c != '>')

def boundaryNamed? (name : List Char) : Option WordEdge :=
  match String.ofList name with
  | "start" => some .start
  | "end" => some .finish
  | "start-half" => some .startHalf
  | "end-half" => some .finishHalf
  | _ => none

def isBoundaryLetter (c : Char) : Bool := Ascii.isLetter c || c == '-'

/-- Reads the name of a word boundary up to its closing brace, behind letters (in reverse). -/
def readBoundaryName (f : Flags) : Nat → List Char → List Char → Option (WordEdge × List Char)
  | 0, _, _ => none
  | fuel + 1, name, text =>
    match text with
    | [] => none
    | '\x7d' :: rest => (boundaryNamed? name.reverse).map fun edge => (edge, rest)
    | c :: _ =>
      if isBoundaryLetter c then readBoundaryName f fuel (c :: name) (f.next text) else none

/-- A word boundary, perhaps of a special kind in braces. -/
def readBoundary (f : Flags) (fuel : Nat) (text : List Char) : Option (Atom × List Char) :=
  match text with
  | '\x7b' :: rest =>
    match f.skip rest with
    | [] => none
    | c :: more =>
      if isBoundaryLetter c then
        (readBoundaryName f fuel [] (c :: more)).map fun (edge, rest) =>
          (.assert (f.word edge), rest)
      else some (.assert (f.word .boundary), text)
  | _ => some (.assert (f.word .boundary), text)

/-- Reads what follows a backslash; `fuel` bounds the length of the text. -/
def readEscape (f : Flags) (fuel : Nat) : List Char → Option (Atom × List Char)
  | [] => none
  | c :: rest =>
    match c with
    | 'x' => readHex f fuel 2 (c :: rest)
    | 'u' => readHex f fuel 4 (c :: rest)
    | 'U' => readHex f fuel 8 (c :: rest)
    | 'a' => some (.char '\x07' false, rest)
    | 'f' => some (.char '\x0c' false, rest)
    | 't' => some (.char '\t' false, rest)
    | 'n' => some (.char '\n' false, rest)
    | 'r' => some (.char '\r' false, rest)
    | 'v' => some (.char '\x0b' false, rest)
    | 'A' => some (.assert .textStart, rest)
    | 'z' => some (.assert .textEnd, rest)
    | 'b' => readBoundary f fuel rest
    | 'B' => some (.assert (f.word .noBoundary), rest)
    | '<' => some (.assert (f.word .start), rest)
    | '>' => some (.assert (f.word .finish), rest)
    | c =>
      if "dDsSwW".toList.contains c then some (.kind c, rest)
      else if isEscapable c then some (.char c false, rest)
      else none

end DaemonDialogue.Pattern
