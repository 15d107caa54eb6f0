import DaemonDialogue.Script.Text

/-!
# Fields

What words stand for is split into fields at separators, but only where it came from a
parameter or a command. Quotes leave marks, so that an empty pair of them is a field, too.
-/

namespace DaemonDialogue.Script

/-- A character that a word stands for, or a mark where quotes begin or end. -/
inductive Glyph
  | char (c : Char)
  | shielded (c : Char)
  | quote
  deriving DecidableEq, Repr, Inhabited

namespace Glyph

def char? : Glyph → Option Char
  | char c | shielded c => some c
  | quote => none

def text (gs : List Glyph) : Text := gs.filterMap char?

/-- The characters that mean something else than themselves in patterns. -/
def isMeta (c : Char) : Bool := "!*?[=~:/-]\\".toList.contains c

/-- The pattern that some glyphs are: shielded characters mean themselves. -/
def pattern (gs : List Glyph) : Text :=
  gs.flatMap fun
    | .char c => [c]
    | .shielded c => if isMeta c then ['\\', c] else [c]
    | .quote => []

/-- The glyphs of a value, which quotes around it shield. -/
def ofText (quoted : Bool) (t : Text) : List Glyph :=
  if quoted then t.map shielded else t.map char

end Glyph

/-- How a run of glyphs is split: not at all, at separators, or between parameters only. -/
inductive Splitting
  | never
  | atSeparators
  | betweenParameters
  deriving DecidableEq, Repr, Inhabited

structure Run where
  glyphs : List Glyph
  splitting : Splitting := .never
  deriving Repr, Inhabited

namespace Field

/-- What stands between parameters that are told apart. -/
def boundary : Char := '\x00'

def isBlank (c : Char) : Bool := c == boundary || c == ' ' || c == '\t' || c == '\n'

/-- The fields so far and the one on the way, both in reverse; whether blanks that end a field
are being passed over, and whether this and the run before it are split between parameters only.
Where the number of fields is limited: how many more may end, and how much of the last one counts. -/
structure Split where
  done : List (List Glyph) := []
  current : List Glyph := []
  passing : Bool := false
  inBetween : Bool := false
  wasBetween : Bool := false
  left : Option Nat := none
  kept : Option Nat := none
  deriving Inhabited

namespace Split

/-- The next glyph of the last field, of which blanks at the end do not count. -/
def takeLast (s : Split) (g : Glyph) (separates blank : Bool) : Split :=
  let s' := { s with current := g :: s.current }
  if blank then { s' with kept := some (s.kept.getD s.current.length) }
  else if separates && s.passing then { s' with passing := false }
  else { s' with passing := false, kept := none }

/-- The next glyph, given whether it separates fields and is a blank. -/
def take (s : Split) (g : Glyph) (separates blank : Bool) : Split :=
  if s.left == some 0 then s.takeLast g separates blank
  else if s.passing then
    if separates then
      if blank then s else { s with passing := false }
    else { s with current := [g], passing := false }
  else if separates then
    let passing := blank && !s.wasBetween && !s.inBetween
    if passing && s.current.isEmpty then s
    else
      let left := s.left.map (· - 1)
      if left == some 0 then
        { s with current := g :: s.current, passing, left, kept := some s.current.length }
      else { s with done := s.current.reverse :: s.done, current := [], passing, left }
  else { s with current := g :: s.current, passing := false }

def takeRun (separators : Text) (s : Split) (r : Run) : Split :=
  match r.splitting with
  | .never => { s with current := r.glyphs.reverse ++ s.current }
  | kind =>
    let between := kind == .betweenParameters
    let s := { s with wasBetween := s.inBetween, inBetween := between, passing := false }
    r.glyphs.foldl (fun s g =>
      match g.char? with
      | none => s.take g false false
      | some c =>
        let separates := c == boundary || (!between && separators.contains c)
        s.take g separates (separates && isBlank c)) s

def fields (s : Split) : List (List Glyph) :=
  let last := s.current.reverse
  let last := match s.kept with
    | some n => last.take n
    | none => last
  (if last.isEmpty && !s.inBetween then s.done else last :: s.done).reverse

end Split

def split (separators : Text) (runs : List Run) : List (List Glyph) :=
  (runs.foldl (Split.takeRun separators) {}).fields

/-- The fields of some runs, the last of a number of them with all that is left. -/
def splitInto (count : Nat) (separators : Text) (runs : List Run) : List (List Glyph) :=
  (runs.foldl (Split.takeRun separators) { left := some count }).fields

end Field
end DaemonDialogue.Script
