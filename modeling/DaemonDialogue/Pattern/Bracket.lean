import DaemonDialogue.Pattern.Escape

/-!
# Reading sets of characters

A set stands between brackets and may contain others. Sets that are still open, and
left sides of operations, wait on a stack. Each set knows how deep it is nested: a
bracket, an operation, and a list of two elements or more count one each.
-/

namespace DaemonDialogue.Pattern

structure NestedSet where
  set : CharSet
  depth : Nat

/-- The elements of a list between brackets: their ranges, their number and the greatest
depth among them. -/
structure Elements where
  ranges : List CodeRange := []
  count : Nat := 0
  depth : Nat := 0

namespace Elements

def add (e : Elements) (set : CharSet) (depth : Nat) : Elements :=
  ⟨set.ranges ++ e.ranges, e.count + 1, max e.depth depth⟩

def close (e : Elements) : NestedSet :=
  ⟨.ofRanges e.ranges, if e.count ≤ 1 then e.depth else e.depth + 1⟩

end Elements

/-- An operation between two sets. -/
inductive SetOp
  | both
  | except
  | either
  deriving DecidableEq, Repr

def SetOp.apply : SetOp → CharSet → CharSet → CharSet
  | .both => .inter
  | .except => .diff
  | .either => .symmDiff

/-- The operation at the front, if there is one. -/
def setOp? : List Char → Option (SetOp × List Char)
  | '&' :: '&' :: rest => some (.both, rest)
  | '-' :: '-' :: rest => some (.except, rest)
  | '~' :: '~' :: rest => some (.either, rest)
  | _ => none

/-- What waits until a set ends: the left side of an operation, or an open bracket with the
elements in front of it. -/
inductive Waiting
  | left (set : NestedSet) (op : SetOp)
  | bracket (outer : Elements) (negated : Bool)

/-- Reads the beginning of a set behind its bracket: whether it is turned around, and the
hyphens or the closing bracket that stand for themselves there. `fuel` bounds the length. -/
def readOpening (f : Flags) (fuel : Nat) (text : List Char) : Bool × Elements × List Char :=
  let text := f.skip text
  let negated := text.head? == some '^'
  let text := if negated then f.next text else text
  let (start, text) := hyphens fuel {} text
  if start.count == 0 && text.head? == some ']' then
    (negated, start.add (.single ']'.toNat) 0, f.next text)
  else (negated, start, text)
where
  hyphens (fuel : Nat) (start : Elements) (text : List Char) : Elements × List Char :=
    match fuel with
    | 0 => (start, text)
    | fuel + 1 =>
      if text.head? == some '-' then hyphens fuel (start.add (.single '-'.toNat) 0) (f.next text)
      else (start, text)

/-- Reads one element of a set: a character or a kind. -/
def readElement (f : Flags) (fuel : Nat) : List Char → Option (Atom × List Char)
  | '\\' :: rest => readEscape f fuel rest
  | c :: rest => some (.char c false, rest)
  | [] => none

/-- The code point of an element that is a character, if it may stand in a set. -/
def Atom.code? (f : Flags) : Atom → Option Nat
  | .char c asByte =>
    if f.unicode || (c.toNat < 0x80 && !asByte) then some c.toNat else none
  | _ => none

def readElements (f : Flags) (fuel : Nat) (text : List Char) : Option (CharSet × List Char) := do
  let (first, rest) ← readElement f fuel text
  let rest := f.skip rest
  let isRange :=
    match rest with
    | '-' :: behind => f.peek? behind != some ']' && f.peek? behind != some '-'
    | _ => false
  if isRange then
    let (last, rest) ← readElement f fuel (f.next rest)
    let low ← first.code? f
    let high ← last.code? f
    if low ≤ high then some (⟨[(low, high)]⟩, rest) else none
  else
    match first with
    | .kind letter => (f.kind? letter).map fun set => (set, rest)
    | first => (first.code? f).map fun n => (.single n, rest)

def readNamed (text : List Char) : Option (Bool × CharSet × List Char) :=
  match text with
  | ':' :: rest =>
    let negated := rest.head? == some '^'
    let rest := if negated then rest.drop 1 else rest
    let name := rest.takeWhile (· != ':')
    match rest.drop name.length with
    | ':' :: ']' :: behind =>
      (CharSet.asciiNamed? (String.ofList name)).map fun set => (negated, set, behind)
    | _ => none
  | _ => none

/-- The elements just read together with the operation that waits for them. -/
def finishOp (f : Flags) (elements : Elements) : List Waiting → NestedSet × List Waiting
  | .left a op :: rest =>
    let b := elements.close
    (⟨op.apply (f.fold a.set) (f.fold b.set), max a.depth b.depth + 1⟩, rest)
  | stack => (elements.close, stack)

/-- Reads on inside of brackets; `fuel` is more than the length of the text. -/
def readInside (f : Flags) : Nat → List Waiting → Elements → List Char →
    Option (NestedSet × List Char)
  | 0, _, _, _ => none
  | fuel + 1, stack, elements, text =>
    match f.skip text with
    | [] => none
    | ']' :: rest =>
      match finishOp f elements stack with
      | (inner, .bracket outer negated :: stack) =>
        match f.bracketed? negated inner.set with
        | none => none
        | some set =>
          let depth := inner.depth + 1
          if stack.isEmpty then some (⟨set, depth⟩, rest)
          else readInside f fuel stack (outer.add set depth) rest
      | _ => none
    | '[' :: rest =>
      match readNamed rest with
      | some (negated, set, rest) =>
        match f.bracketed? negated set with
        | some set => readInside f fuel stack (elements.add set 0) rest
        | none => none
      | none =>
        let (negated, start, rest) := readOpening f fuel rest
        readInside f fuel (.bracket elements negated :: stack) start rest
    | text =>
      match setOp? text with
      | some (op, rest) =>
        let (left, stack) := finishOp f elements stack
        readInside f fuel (.left left op :: stack) {} rest
      | none =>
        match readElements f fuel text with
        | some (set, rest) => readInside f fuel stack (elements.add set 0) rest
        | none => none

/-- Reads a set behind its opening bracket; `fuel` is more than the length of the text. -/
def readSet (f : Flags) (fuel : Nat) (text : List Char) : Option (NestedSet × List Char) :=
  let (negated, start, rest) := readOpening f fuel text
  readInside f fuel [.bracket {} negated] start rest

end DaemonDialogue.Pattern
