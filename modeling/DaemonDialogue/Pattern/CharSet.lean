import DaemonDialogue.Text.Blank
import DaemonDialogue.Text.Case.Fold
import DaemonDialogue.Text.Property.Word
import Std.Data.HashSet

/-!
# Sets of characters

A set is kept as ranges of code points in increasing order that neither overlap nor
touch. The code points reserved for surrogates are no characters: the neighbour of
U+D7FF is U+E000.
-/

namespace DaemonDialogue.Pattern

/-- The code points from the first to the second. -/
abbrev CodeRange := Nat × Nat

namespace CodeRange

/-- The greatest code point. -/
def last : Nat := 0x10FFFF

/-- The code point of the next character. -/
def after (n : Nat) : Nat := if n == 0xD7FF then 0xE000 else n + 1

def before (n : Nat) : Nat := if n == 0xE000 then 0xD7FF else n - 1

/-- A range between two code points, whichever comes first. -/
def between (a b : Nat) : CodeRange := (min a b, max a b)

/-- Puts a range behind others (in reverse), none of which starts later. -/
def push (r : CodeRange) : List CodeRange → List CodeRange
  | [] => [r]
  | (low, high) :: rest =>
    if r.1 ≤ high + 1 then (low, max high r.2) :: rest else r :: (low, high) :: rest

def common : Nat → List CodeRange → List CodeRange → List CodeRange
  | 0, _, _ => []
  | _, [], _ => []
  | _, _, [] => []
  | fuel + 1, (a, b) :: rest, (c, d) :: rest' =>
    let rest'' :=
      if b ≤ d then common fuel rest ((c, d) :: rest') else common fuel ((a, b) :: rest) rest'
    if max a c ≤ min b d then (max a c, min b d) :: rest'' else rest''

/-- The code points of the first list of ranges that are not in the second. -/
def without : Nat → List CodeRange → List CodeRange → List CodeRange
  | 0, _, _ => []
  | _, [], _ => []
  | _, ranges, [] => ranges
  | fuel + 1, (a, b) :: rest, (c, d) :: rest' =>
    if b < c then (a, b) :: without fuel rest ((c, d) :: rest')
    else if d < a then without fuel ((a, b) :: rest) rest'
    else
      let tail :=
        if d < b then without fuel ((after d, b) :: rest) rest'
        else without fuel rest ((c, d) :: rest')
      if a < c then (a, before c) :: tail else tail

/-- The gaps behind ranges in order, of which the last ended at `high`. -/
def gaps (high : Nat) : List CodeRange → List CodeRange
  | [] => if high < last then [(after high, last)] else []
  | (c, d) :: rest => between (after high) (before c) :: gaps d rest

end CodeRange

/-- A set of characters: ranges in order. -/
structure CharSet where
  ranges : List CodeRange
  deriving DecidableEq, Repr, Inhabited

namespace CharSet

def empty : CharSet := ⟨[]⟩

def ofRanges (ranges : List CodeRange) : CharSet :=
  let sorted := ranges.mergeSort fun a b => a.1 < b.1 || (a.1 == b.1 && a.2 ≤ b.2)
  ⟨(sorted.foldl (fun done r => CodeRange.push r done) []).reverse⟩

def single (n : Nat) : CharSet := ⟨[(n, n)]⟩

def all : CharSet := ⟨[(0, CodeRange.last)]⟩

def union (a b : CharSet) : CharSet := ofRanges (a.ranges ++ b.ranges)

def inter (a b : CharSet) : CharSet :=
  ⟨CodeRange.common (a.ranges.length + b.ranges.length) a.ranges b.ranges⟩

def diff (a b : CharSet) : CharSet :=
  ⟨CodeRange.without (2 * (a.ranges.length + b.ranges.length)) a.ranges b.ranges⟩

/-- The characters of exactly one of two sets. -/
def symmDiff (a b : CharSet) : CharSet :=
  (a.union b).diff (a.inter b)

def compl (s : CharSet) : CharSet :=
  match s.ranges with
  | [] => all
  | (a, b) :: rest =>
    ⟨(if 0 < a then [(0, CodeRange.before a)] else []) ++ CodeRange.gaps b rest⟩

def has (s : CharSet) (n : Nat) : Bool :=
  s.ranges.any fun (a, b) => a ≤ n && n ≤ b

def isAscii (s : CharSet) : Bool :=
  s.ranges.all fun (_, b) => b < 0x80

def foldPairs : List (Nat × Nat) :=
  Case.folds.flatMap fun run =>
    (List.range ((run.last - run.first) / run.step + 1)).map fun i =>
      (run.first + i * run.step, run.image + i * run.step)

/-- The set with all characters that differ in case only from one of its. -/
def fold (s : CharSet) : CharSet :=
  let hit := foldPairs.foldl (fun hit (n, base) =>
    if s.has n || s.has base then hit.insert base else hit) ({} : Std.HashSet Nat)
  ofRanges (s.ranges ++ foldPairs.flatMap fun (n, base) =>
    if hit.contains base then [(n, n), (base, base)] else [])

def foldAscii (s : CharSet) : CharSet :=
  let letters := fun (low shift : Nat) => (List.range 26).filterMap fun i =>
    if s.has (low + i) then some (shift + i, shift + i) else none
  ofRanges (s.ranges ++ letters 0x41 0x61 ++ letters 0x61 0x41)

/-! ## Sets with names -/

def digits : CharSet := ⟨Property.ranges Property.decimalDigit⟩

def blanks : CharSet :=
  ⟨[(9, 13), (0x20, 0x20), (0x85, 0x85), (0xA0, 0xA0), (0x1680, 0x1680), (0x2000, 0x200A),
    (0x2028, 0x2029), (0x202F, 0x202F), (0x205F, 0x205F), (0x3000, 0x3000)]⟩

def wordParts : CharSet := ⟨Property.ranges Property.wordPart⟩

def asciiNamed? (name : String) : Option CharSet :=
  let digit := (0x30, 0x39)
  let upper := (0x41, 0x5A)
  let lower := (0x61, 0x7A)
  match name with
  | "alnum" => some ⟨[digit, upper, lower]⟩
  | "alpha" => some ⟨[upper, lower]⟩
  | "ascii" => some ⟨[(0, 0x7F)]⟩
  | "blank" => some ⟨[(9, 9), (0x20, 0x20)]⟩
  | "cntrl" => some ⟨[(0, 0x1F), (0x7F, 0x7F)]⟩
  | "digit" => some ⟨[digit]⟩
  | "graph" => some ⟨[(0x21, 0x7E)]⟩
  | "lower" => some ⟨[lower]⟩
  | "print" => some ⟨[(0x20, 0x7E)]⟩
  | "punct" => some ⟨[(0x21, 0x2F), (0x3A, 0x40), (0x5B, 0x60), (0x7B, 0x7E)]⟩
  | "space" => some ⟨[(9, 13), (0x20, 0x20)]⟩
  | "upper" => some ⟨[upper]⟩
  | "word" => some ⟨[digit, upper, (0x5F, 0x5F), lower]⟩
  | "xdigit" => some ⟨[digit, (0x41, 0x46), (0x61, 0x66)]⟩
  | _ => none

end CharSet
end DaemonDialogue.Pattern
