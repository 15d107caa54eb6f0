import DaemonDialogue.Json.Number

/-!
# Reading JSON

A reader takes characters from the front of a list and returns what is left. Arrays and
objects that are still open wait on a stack, so that what is nested deep costs no more
than what is not.
-/

namespace DaemonDialogue.Json

/-- How deep arrays and objects may be nested. -/
def maxDepth : Nat := 127

def isSpace (c : Char) : Bool :=
  c == ' ' || c == '\n' || c == '\t' || c == '\r'

def skipSpace (text : List Char) : List Char :=
  text.dropWhile isSpace

/-! ## Strings -/

/-- The value of four hexadecimal digits. -/
def hex4? (a b c d : Char) : Option Nat := do
  return (((← Ascii.hexDigit? a) * 16 + (← Ascii.hexDigit? b)) * 16 + (← Ascii.hexDigit? c)) * 16 + (← Ascii.hexDigit? d)

def shortEscape? (c : Char) : Option Char :=
  match c with
  | '"' => some '"'
  | '\\' => some '\\'
  | '/' => some '/'
  | 'b' => some '\x08'
  | 'f' => some '\x0c'
  | 'n' => some '\n'
  | 'r' => some '\r'
  | 't' => some '\t'
  | _ => none

def isHighSurrogate (n : Nat) : Bool := 0xD800 ≤ n && n < 0xDC00
def isLowSurrogate (n : Nat) : Bool := 0xDC00 ≤ n && n < 0xE000

/-- The second half of a surrogate pair at the front, if it is there. -/
def lowHalf? : List Char → Option (Nat × List Char)
  | '\\' :: 'u' :: a :: b :: c :: d :: rest => do
    let n ← hex4? a b c d
    if isLowSurrogate n then some (n, rest) else none
  | _ => none

/-- What a code unit in an escape stands for in front of a text, and the text behind it. -/
def pairUp (n : Nat) (rest : List Char) : Option Char × List Char :=
  if isHighSurrogate n then
    match lowHalf? rest with
    | some (m, rest) => (some (Char.ofNat (0x10000 + (n - 0xD800) * 0x400 + (m - 0xDC00))), rest)
    | none => (none, rest)
  else if isLowSurrogate n then (none, rest)
  else (some (Char.ofNat n), rest)

/-- Reads a string behind its opening quote, at most `fuel` characters; what is read so far is in
reverse, and nothing once there was half of a surrogate pair. -/
def readString : Nat → Option (List Char) → List Char → Option (Option String × List Char)
  | 0, _, _ => none
  | fuel + 1, read, text =>
    match text with
    | [] => none
    | '"' :: rest => some (read.map fun cs => String.ofList cs.reverse, rest)
    | '\\' :: 'u' :: a :: b :: c :: d :: rest =>
      match hex4? a b c d with
      | none => none
      | some n =>
        match pairUp n rest with
        | (some c, rest) => readString fuel (read.map (c :: ·)) rest
        | (none, rest) => readString fuel none rest
    | '\\' :: c :: rest =>
      match shortEscape? c with
      | none => none
      | some e => readString fuel (read.map (e :: ·)) rest
    | c :: rest => if c.toNat < 0x20 then none else readString fuel (read.map (c :: ·)) rest

/-! ## Values -/

/-- An array or object that is open, with what it holds so far (in reverse). -/
inductive Open
  | array (items : List Draft)
  | object (members : List (Option String × Draft)) (name : Option String)

/-- Reads a value that neither array nor object is. -/
def readScalar (fuel : Nat) : List Char → Option (Draft × List Char)
  | '"' :: rest =>
    (readString fuel (some []) rest).map fun (s, rest) => (s.elim .senseless .string, rest)
  | 'n' :: 'u' :: 'l' :: 'l' :: rest => some (.null, rest)
  | 't' :: 'r' :: 'u' :: 'e' :: rest => some (.bool true, rest)
  | 'f' :: 'a' :: 'l' :: 's' :: 'e' :: rest => some (.bool false, rest)
  | '-' :: rest => readNumber true rest
  | text => readNumber false text

def readName (fuel : Nat) (text : List Char) : Option (Option String × List Char) :=
  match skipSpace text with
  | '"' :: rest =>
    match readString fuel (some []) rest with
    | some (name, rest) =>
      match skipSpace rest with
      | ':' :: rest => some (name, rest)
      | _ => none
    | none => none
  | _ => none

/-- An array or object that `depth` others are around. -/
def nested (bound depth : Nat) (d : Draft) : Draft :=
  if depth < bound then d else .senseless

/-- Reads on, at most `fuel` steps: with a value it is put where it belongs, without one the next
begins. `depth` containers are open, and those more than `bound` deep have no meaning. -/
def readOn (bound : Nat) :
    Nat → Nat → List Open → Option Draft → List Char → Option (Draft × List Char)
  | 0, _, _, _, _ => none
  | fuel + 1, depth, stack, value, text =>
    match value, stack, skipSpace text with
    | none, stack, '[' :: rest =>
      match skipSpace rest with
      | ']' :: rest => readOn bound fuel depth stack (nested bound depth (.array [])) rest
      | rest => readOn bound fuel (depth + 1) (.array [] :: stack) none rest
    | none, stack, '\x7b' :: rest =>
      match skipSpace rest with
      | '\x7d' :: rest => readOn bound fuel depth stack (nested bound depth (.object [])) rest
      | rest =>
        match readName fuel rest with
        | some (name, rest) => readOn bound fuel (depth + 1) (.object [] name :: stack) none rest
        | none => none
    | none, stack, text =>
      match readScalar fuel text with
      | some (d, rest) => readOn bound fuel depth stack (some d) rest
      | none => none
    | some d, [], text => some (d, text)
    | some d, .array items :: stack, ',' :: rest =>
      readOn bound fuel depth (.array (d :: items) :: stack) none rest
    | some d, .array items :: stack, ']' :: rest =>
      readOn bound fuel (depth - 1) stack
        (nested bound (depth - 1) (.array (d :: items).reverse)) rest
    | some d, .object members name :: stack, ',' :: rest =>
      match readName fuel rest with
      | some (next, rest) =>
        readOn bound fuel depth (.object ((name, d) :: members) next :: stack) none rest
      | none => none
    | some d, .object members name :: stack, '\x7d' :: rest =>
      readOn bound fuel (depth - 1) stack
        (nested bound (depth - 1) (.object ((name, d) :: members).reverse)) rest
    | some _, _, _ => none

/-- The draft of a whole text, with meaning up to some depth. -/
def readDraft (bound : Nat) (text : List Char) : Option Draft :=
  match readOn bound (text.length + 2) 0 [] none text with
  | some (d, rest) => if (skipSpace rest).isEmpty then some d else none
  | none => none

/-- The value of a whole text, nested at most `depth` deep. -/
def readWithin (depth : Nat) (text : List Char) : Option Json := do
  (← readDraft depth text).value?

end DaemonDialogue.Json
