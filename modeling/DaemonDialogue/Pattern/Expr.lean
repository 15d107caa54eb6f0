import DaemonDialogue.Pattern.Assertion
import DaemonDialogue.Pattern.CharSet
import DaemonDialogue.Text.Utf8

/-!
# Regular expressions

Alternatives and repetitions are tried in order, so an expression also says which of
several matches it prefers. The functions that build expressions keep them small:
neighbouring texts become one, alternatives of single characters become a set, and
what all alternatives begin with is written once.
-/

namespace DaemonDialogue.Pattern

/-- A regular expression. Texts and sets are matched character by character in UTF-8. -/
inductive Expr
  | empty
  | text (bytes : List UInt8)
  | set (chars : CharSet)
  | assert (assertion : Assertion)
  | repeated (body : Expr) (least : Nat) (greatest : Option Nat) (greedy : Bool)
  | group (index : Nat) (body : Expr)
  | sequence (parts : List Expr)
  | choice (parts : List Expr)
  deriving Repr, Inhabited

def codeLength (n : Nat) : Nat :=
  if n < 0x80 then 1 else if n < 0x800 then 2 else if n < 0x10000 then 3 else 4

namespace Expr

/-! ## Equality -/

mutual

def same : Expr → Expr → Bool
  | .empty, .empty => true
  | .text a, .text b => a == b
  | .set a, .set b => a == b
  | .assert a, .assert b => a == b
  | .repeated a least greatest greedy, .repeated b least' greatest' greedy' =>
    least == least' && greatest == greatest' && greedy == greedy' && a.same b
  | .group i a, .group j b => i == j && a.same b
  | .sequence a, .sequence b => sameAll a b
  | .choice a, .choice b => sameAll a b
  | _, _ => false

def sameAll : List Expr → List Expr → Bool
  | [], [] => true
  | a :: rest, b :: rest' => a.same b && sameAll rest rest'
  | _, _ => false

end

/-! ## Lengths of matches -/

mutual

/-- The length in bytes of the shortest match; `none` if there may be none at all. -/
def minLength : Expr → Option Nat
  | .empty => some 0
  | .text bytes => some bytes.length
  | .set chars => chars.ranges.head?.map fun r => codeLength r.1
  | .assert _ => some 0
  | .repeated body least _ _ => body.minLength.map (· * least)
  | .group _ body => body.minLength
  | .sequence parts => minLengthSum parts
  | .choice parts => minLengthLeast parts

def minLengthSum : List Expr → Option Nat
  | [] => some 0
  | e :: rest =>
    match e.minLength, minLengthSum rest with
    | some a, some b => some (a + b)
    | _, _ => none

def minLengthLeast : List Expr → Option Nat
  | [] => none
  | [e] => e.minLength
  | e :: rest =>
    match e.minLength, minLengthLeast rest with
    | some a, some b => some (min a b)
    | _, _ => none

end

mutual

/-- The length in bytes of the longest match; `none` if it has no bound or there is none. -/
def maxLength : Expr → Option Nat
  | .empty => some 0
  | .text bytes => some bytes.length
  | .set chars => chars.ranges.getLast?.map fun r => codeLength r.2
  | .assert _ => some 0
  | .repeated body _ greatest _ =>
    match body.maxLength, greatest with
    | some a, some n => some (a * n)
    | _, _ => none
  | .group _ body => body.maxLength
  | .sequence parts => maxLengthSum parts
  | .choice parts => maxLengthGreatest parts

def maxLengthSum : List Expr → Option Nat
  | [] => some 0
  | e :: rest =>
    match e.maxLength, maxLengthSum rest with
    | some a, some b => some (a + b)
    | _, _ => none

def maxLengthGreatest : List Expr → Option Nat
  | [] => none
  | [e] => e.maxLength
  | e :: rest =>
    match e.maxLength, maxLengthGreatest rest with
    | some a, some b => some (max a b)
    | _, _ => none

end

/-! ## What a match begins and ends with -/

mutual

def beginsWith (a : Assertion) : Expr → Bool
  | .assert b => a == b
  | .repeated body least _ _ => 0 < least && body.beginsWith a
  | .group _ body => body.beginsWith a
  | .sequence parts => someBeginsWith a parts
  | .choice parts => allBeginWith a parts
  | _ => false

def someBeginsWith (a : Assertion) : List Expr → Bool
  | [] => false
  | e :: rest => e.beginsWith a || (e.maxLength == some 0 && someBeginsWith a rest)

def allBeginWith (a : Assertion) : List Expr → Bool
  | [] => true
  | e :: rest => e.beginsWith a && allBeginWith a rest

end

mutual

def endsWith (a : Assertion) : Expr → Bool
  | .assert b => a == b
  | .repeated body least _ _ => 0 < least && body.endsWith a
  | .group _ body => body.endsWith a
  | .sequence parts => (tailOf a parts).1
  | .choice parts => allEndWith a parts
  | _ => false

/-- Does every match of parts one after the other end with an assertion, and is it always empty? -/
def tailOf (a : Assertion) : List Expr → Bool × Bool
  | [] => (false, true)
  | e :: rest =>
    let (ends, isEmpty) := tailOf a rest
    (ends || (isEmpty && e.endsWith a), isEmpty && e.maxLength == some 0)

def allEndWith (a : Assertion) : List Expr → Bool
  | [] => true
  | e :: rest => e.endsWith a && allEndWith a rest

end

/-! ## Building -/

/-- The expression of a set: a text if it has a single character. -/
def ofSet (s : CharSet) : Expr :=
  match s.ranges with
  | [(a, b)] => if a == b then .text (String.utf8EncodeChar (Char.ofNat a)) else .set s
  | _ => .set s

/-- A repetition. What matches only the empty text is repeated once at most. -/
def ofRepeated (body : Expr) (least : Nat) (greatest : Option Nat) (greedy : Bool) : Expr :=
  let (least, greatest) :=
    if body.maxLength == some 0 then (min least 1, some (min (greatest.getD 1) 1))
    else (least, greatest)
  if least == 0 && greatest == some 0 then .empty
  else if least == 1 && greatest == some 1 then body
  else .repeated body least greatest greedy

/-- Texts (in reverse) as one part, if there are any. -/
def joined : List (List UInt8) → List Expr
  | [] => []
  | texts => [.text texts.reverse.flatten]

/-- Joins neighbouring texts and leaves out what is empty; `texts` wait for their neighbours. -/
def joinTexts (texts : List (List UInt8)) : List Expr → List Expr
  | [] => joined texts
  | .text bytes :: rest => joinTexts (bytes :: texts) rest
  | .empty :: rest => joinTexts texts rest
  | e :: rest => joined texts ++ e :: joinTexts [] rest

def ofSequence (parts : List Expr) : Expr :=
  let flat := parts.flatMap fun
    | .sequence inner => inner
    | e => [e]
  match joinTexts [] flat with
  | [] => .empty
  | [e] => e
  | parts => .sequence parts

def charOfText? (bytes : List UInt8) : Option Char :=
  match Utf8.strictDecode bytes with
  | .ok word =>
    match word.toList with
    | [c] => some c
    | _ => none
  | .error _ => none

def asSet? : Expr → Option CharSet
  | .set s => some s
  | .text bytes => (charOfText? bytes).map fun c => .single c.toNat
  | _ => none

/-- The parts that all expressions, as sequences, begin with. -/
def commonStart : List Expr → List Expr → List Expr
  | a :: rest, b :: rest' => if a.same b then a :: commonStart rest rest' else []
  | _, _ => []

def sequences? (parts : List Expr) : Option (List (List Expr)) :=
  parts.mapM fun
    | .sequence inner => some inner
    | _ => none

/-- The parts that all of several expressions begin with; empty if not all are sequences. -/
def sharedStart (parts : List Expr) : List Expr :=
  match sequences? parts with
  | some (first :: rest) => rest.foldl commonStart first
  | _ => []

/-- Alternatives in order; what all begin with is taken out of them at most `depth` times. -/
def choiceWithin (depth : Nat) (parts : List Expr) : Expr :=
  let flat := parts.flatMap fun
    | .choice inner => inner
    | e => [e]
  match flat with
  | [] => .set .empty
  | [e] => e
  | flat =>
    match flat.mapM asSet? with
    | some sets => ofSet (.ofRanges (sets.flatMap (·.ranges)))
    | none =>
      match depth, sharedStart flat with
      | depth + 1, first :: others =>
        let rests := ((sequences? flat).getD []).map fun inner =>
          ofSequence (inner.drop (others.length + 1))
        ofSequence (first :: others ++ [choiceWithin depth rests])
      | _, _ => .choice flat

def ofChoice (parts : List Expr) : Expr :=
  choiceWithin parts.length parts

end Expr
end DaemonDialogue.Pattern
