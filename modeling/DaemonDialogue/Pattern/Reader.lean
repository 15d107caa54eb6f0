import DaemonDialogue.Pattern.Bracket
import DaemonDialogue.Text.Property.Alphabetic

/-!
# Reading regular expressions

A reader takes characters from the front. Every construct makes the rest shorter, so
the length of the text bounds how often any of them is read. Groups, repetitions,
alternatives, sequences and sets may be nested up to a depth.
-/

namespace DaemonDialogue.Pattern

structure Nested where
  expr : Expr
  depth : Nat := 0

def maxNesting : Nat := 250

def Nested.checked? (e : Nested) : Option Nested :=
  if e.depth ≤ maxNesting then some e else none

/-! ## Repetitions -/

/-- Reads digits behind those read before (in reverse), with what does not count behind each. -/
def readDigits (f : Flags) : Nat → List Char → List Char → List Char × List Char
  | 0, digits, text => (digits.reverse, text)
  | fuel + 1, digits, text =>
    match text with
    | c :: _ =>
      if Ascii.isDigit c then readDigits f fuel (c :: digits) (f.next text)
      else (digits.reverse, text)
    | [] => (digits.reverse, [])

def skipBlanks (f : Flags) : Nat → List Char → List Char
  | 0, text => text
  | fuel + 1, text =>
    if text.head?.any isBlank then skipBlanks f fuel (f.next text) else text

/-- A count: digits with blanks around them; `none` inside if there are no digits. `fuel` bounds the
length of the text. -/
def readCount (f : Flags) (fuel : Nat) (text : List Char) : Option (Option Nat × List Char) :=
  let text := text.dropWhile isBlank
  let (digits, rest) := readDigits f fuel [] text
  let rest := skipBlanks f fuel rest
  if digits.isEmpty then some (none, rest)
  else if Ascii.digitsValue digits ≤ Numeral.maxU32 then
    some (some (Ascii.digitsValue digits), rest)
  else none

/-- Reads the counts of a repetition from its opening brace on, and whether it is lazy. -/
def readCounts (f : Flags) (fuel : Nat) (text : List Char) :
    Option (Nat × Option Nat × Bool × List Char) := do
  let (first, rest) ← readCount f fuel (f.next text)
  let least ← first
  let (greatest, rest) ←
    match rest with
    | ',' :: _ =>
      match f.next rest with
      | '\x7d' :: rest => some (none, '\x7d' :: rest)
      | rest => do
        let (second, rest) ← readCount f fuel rest
        let greatest ← second
        if least ≤ greatest then some (some greatest, rest) else none
    | rest => some (some least, rest)
  match rest with
  | '\x7d' :: _ =>
    match f.next rest with
    | '?' :: rest => some (least, greatest, true, rest)
    | rest => some (least, greatest, false, rest)
  | _ => none

def readLazy : List Char → Bool × List Char
  | '?' :: rest => (true, rest)
  | text => (false, text)

/-! ## Groups -/

/-- How a group begins: one that is numbered or not, or a switch that is no group. -/
inductive GroupStart
  | numbered (name : Option String)
  | plain (flags : Flags)
  | switch (flags : Flags)

/-- Reads switches up to a colon or a closing parenthesis; `seen` are the letters so far. -/
def readFlags (f : Flags) (on : Bool) (seen : List Char) :
    List Char → Option (GroupStart × List Char)
  | [] => none
  | ':' :: rest => if seen.head? == some '-' then none else some (.plain f, rest)
  | ')' :: rest =>
    if seen.isEmpty || seen.head? == some '-' then none else some (.switch f, rest)
  | '-' :: rest => if seen.contains '-' then none else readFlags f false ('-' :: seen) rest
  | c :: rest =>
    if seen.contains c then none
    else match f.set? on c with
      | some f => readFlags f on (c :: seen) rest
      | none => none

def isNamePart (c : Char) : Bool :=
  c == '_' || c == '.' || c == '[' || c == ']' || isAlphanumeric c

def readGroupName (text : List Char) : Option (String × List Char) :=
  let name := text.takeWhile (· != '>')
  match name, text.drop name.length with
  | c :: more, _ :: rest =>
    if (c == '_' || isAlphabetic c) && more.all isNamePart then some (String.ofList name, rest)
    else none
  | _, _ => none

def readGroupStart (f : Flags) (text : List Char) : Option (GroupStart × List Char) :=
  match text with
  | '?' :: 'P' :: '<' :: rest =>
    (readGroupName rest).map fun (name, rest) => (.numbered (some name), rest)
  | '?' :: '<' :: '=' :: _ => none
  | '?' :: '<' :: '!' :: _ => none
  | '?' :: '<' :: rest =>
    (readGroupName rest).map fun (name, rest) => (.numbered (some name), rest)
  | '?' :: rest => readFlags f true [] rest
  | _ => some (.numbered none, text)

/-! ## Expressions -/

/-- The expressions of one group: alternatives read, and the parts of the one being
read (in reverse; `none` where a switch stands). A numbered group knows its number. -/
structure Level where
  flags : Flags
  number : Option Nat := none
  alternatives : List Nested := []
  parts : List (Option Nested) := []

def Level.sequence (l : Level) : Nested :=
  let depth := l.parts.foldl (fun d part => max d ((part.map (·.depth)).getD 0)) 0
  match l.parts with
  | [some e] => e
  | parts =>
    ⟨.ofSequence (parts.reverse.filterMap (·.map (·.expr))),
      if 2 ≤ parts.length then depth + 1 else depth⟩

def Level.close (l : Level) : Nested :=
  match l.alternatives with
  | [] => l.sequence
  | others =>
    let all := (l.sequence :: others).reverse
    ⟨.ofChoice (all.map (·.expr)), all.foldl (fun d e => max d e.depth) 0 + 1⟩

def Level.group (l : Level) : Nested :=
  let inner := l.close
  match l.number with
  | some n => ⟨.group n inner.expr, inner.depth + 1⟩
  | none => ⟨inner.expr, inner.depth + 1⟩

def Level.next (l : Level) : Level :=
  { l with alternatives := l.sequence :: l.alternatives, parts := [] }

def Level.push (l : Level) (e : Nested) : Level :=
  { l with parts := some e :: l.parts }

/-- The last part repeated, if there is one that can be. -/
def Level.repeat? (l : Level) (least : Nat) (greatest : Option Nat) (isLazy : Bool) :
    Option Level :=
  match l.parts with
  | some e :: rest => do
    let greedy := (!isLazy) != l.flags.swapGreed
    let e ← Nested.checked? ⟨.ofRepeated e.expr least greatest greedy, e.depth + 1⟩
    some { l with parts := some e :: rest }
  | _ => none

/-- The state of reading: the innermost group, those around it, how many groups are numbered
and the names among them. -/
structure Reading where
  current : Level
  outer : List Level := []
  groups : Nat := 0
  names : List String := []

def Reading.open? (r : Reading) (start : GroupStart) : Option Reading :=
  let f := r.current.flags
  match start with
  | .switch flags =>
    some { r with current := { r.current with flags := flags, parts := none :: r.current.parts } }
  | .plain flags => some { r with current := { flags := flags }, outer := r.current :: r.outer }
  | .numbered name =>
    if name.any r.names.contains then none
    else some ⟨{ flags := f, number := some (r.groups + 1) }, r.current :: r.outer, r.groups + 1,
      name.toList ++ r.names⟩

/-- Reads one construct at the front of a text that is not empty; `fuel` bounds the length of the text. -/
def Reading.step (r : Reading) (fuel : Nat) (c : Char) (rest : List Char) :
    Option (Reading × List Char) :=
  let f := r.current.flags
  let push := fun (e : Expr) (rest : List Char) =>
    some ({ r with current := r.current.push ⟨e, 0⟩ }, rest)
  let repeated := fun (least : Nat) (greatest : Option Nat) (isLazy : Bool) (rest : List Char) =>
    (r.current.repeat? least greatest isLazy).map fun l => ({ r with current := l }, rest)
  match c with
  | '(' => do
    let (start, rest) ← readGroupStart f (f.skip rest)
    some (← r.open? start, rest)
  | ')' =>
    match r.outer with
    | [] => none
    | o :: outer => do
      let e ← r.current.group.checked?
      some ({ r with current := o.push e, outer := outer }, rest)
  | '|' => some ({ r with current := r.current.next }, rest)
  | '[' => do
    let (s, rest) ← readSet f fuel rest
    let e ← Nested.checked? ⟨.ofSet s.set, s.depth⟩
    some ({ r with current := r.current.push e }, rest)
  | '?' => let (isLazy, rest) := readLazy rest; repeated 0 (some 1) isLazy rest
  | '*' => let (isLazy, rest) := readLazy rest; repeated 0 none isLazy rest
  | '+' => let (isLazy, rest) := readLazy rest; repeated 1 none isLazy rest
  | '\x7b' => do
    let (least, greatest, isLazy, rest) ← readCounts f fuel (c :: rest)
    repeated least greatest isLazy rest
  | '\\' =>
    match readEscape f fuel rest with
    | some (.char c asByte, rest) =>
      if asByte && !f.unicode then none else push (f.literal c) rest
    | some (.kind letter, rest) => do push (.ofSet (← f.kind? letter)) rest
    | some (.assert a, rest) => push (.assert a) rest
    | none => none
  | '.' => do push (← f.dot?) rest
  | '^' => push (.assert f.lineStart) rest
  | '$' => push (.assert f.lineEnd) rest
  | c => push (f.literal c) rest

/-- Reads all constructs; `fuel` is more than the length of the text. -/
def Reading.run : Nat → Reading → List Char → Option Nested
  | 0, _, _ => none
  | fuel + 1, r, text =>
    match r.current.flags.skip text with
    | [] => if r.outer.isEmpty then r.current.close.checked? else none
    | c :: rest =>
      match r.step fuel c rest with
      | some (r, rest) => run fuel r rest
      | none => none

def readExpr (text : String) : Option Expr :=
  (Reading.run (text.toList.length + 1) { current := { flags := {} } } text.toList).map (·.expr)

end DaemonDialogue.Pattern
