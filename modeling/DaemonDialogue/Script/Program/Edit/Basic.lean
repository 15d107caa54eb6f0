import DaemonDialogue.Script.Program.Regular

/-!
# Edits of lines

An edit is a list of commands, each for some lines. Its blocks are jumps: a command that opens one knows
where it ends.
-/

namespace DaemonDialogue.Script.Program.Edit

/-- An expression with how it compares texts; one that is empty stands for the last that was used. -/
structure Pattern where
  regular : Option Regular
  manner : Regular.Manner := {}
  deriving Inhabited

/-- Lines: by number, every so many from one on, the last, or those that match. The end of a range may
count lines from its beginning, or be the next multiple of a number. -/
inductive Address
  | line (n : Nat)
  | step (first step : Nat)
  | last
  | pattern (p : Pattern)
  | more (n : Nat)
  | multiple (n : Nat)
  deriving Inhabited

/-- The lines that a command is for: all, those of an address, or ranges of lines; or all others. -/
structure Lines where
  first : Option Address := none
  second : Option Address := none
  negated : Bool := false
  deriving Inhabited

/-- What becomes of the case of letters that are put in. -/
inductive Case
  | kept
  | upper
  | lower
  deriving DecidableEq, Repr, Inhabited

/-- A part of what is put in for a match; the case of the next letter, or of all from here on, may be
changed. -/
inductive Part
  | text (t : Text)
  | group (n : Nat)
  | nextCase (c : Case)
  | case_ (c : Case)
  deriving Repr, Inhabited

/-- What is put in for matches: from the one of a number on, for one or for all. -/
structure Substitution where
  pattern : Pattern
  parts : List Part
  number : Nat := 1
  all : Bool := false
  prints : Bool := false
  deriving Inhabited

/-- When a jump is made: always, if something was put in, or if nothing was. -/
inductive Condition
  | always
  | changed
  | unchanged
  deriving DecidableEq, Repr, Inhabited

/-- What a command does. Jumps without a label lead to the end. -/
inductive Action
  | block (past : Nat)
  | jump (c : Condition) (label : Text)
  | print
  | printFirst
  | delete
  | deleteFirst
  | next
  | join
  | quit (code : Nat) (prints : Bool)
  | number
  | show_ (width : Nat)
  | hold (adds : Bool)
  | get_ (adds : Bool)
  | exchange
  | empty
  | substitute (s : Substitution)
  | exchangeChars (pairs : List (Char × Char))
  | append (t : Text)
  | insert (t : Text)
  | change (t : Text)
  deriving Inhabited

structure Command where
  lines : Lines
  action : Action
  deriving Inhabited

/-- Commands with the places of labels; `quiet` prints only what they say. -/
structure Script where
  commands : List Command := []
  labels : List (Text × Nat) := []
  quiet : Bool := false
  deriving Inhabited

end DaemonDialogue.Script.Program.Edit
