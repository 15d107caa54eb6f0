import DaemonDialogue.Template.Basic
import DaemonDialogue.Text.Utf8

/-!
# Texts and tags

The source of a template falls into texts and tags. A tag opens with two braces
and closes with the first two that stand outside of quotes; inside of quotes a
backslash takes the character behind it along. Offsets count bytes.
-/

namespace DaemonDialogue.Template

/-- A text, or a tag that opens at an offset. -/
inductive Piece
  | text (content : List Char)
  | tag (offset : Nat) (body : List Char)
  deriving DecidableEq, Repr

/-- The characters before the first two opening braces (in reverse, behind `read`) and
those behind the braces. -/
def splitOpen (read : List Char) : List Char → List Char × Option (List Char)
  | [] => (read, none)
  | '\x7b' :: '\x7b' :: rest => (read, some rest)
  | c :: rest => splitOpen (c :: read) rest

/-- The body of a tag (in reverse, behind `read`) and what is behind its braces. -/
def splitClose (inQuotes : Bool) (read : List Char) : List Char → Option (List Char × List Char)
  | [] => none
  | c :: rest =>
    if c == '"' then splitClose (!inQuotes) (c :: read) rest
    else if inQuotes then
      if c == '\\' then
        match rest with
        | [] => none
        | d :: rest => splitClose true (d :: c :: read) rest
      else splitClose true (c :: read) rest
    else
      match c, rest with
      | '\x7d', '\x7d' :: behind => some (read, behind)
      | c, rest => splitClose false (c :: read) rest

theorem splitOpen_length {read text before behind : List Char}
    (h : splitOpen read text = (before, some behind)) : behind.length < text.length := by
  fun_induction splitOpen read text with
  | case1 => simp at h
  | case2 read rest =>
    obtain ⟨-, rfl⟩ := by simpa using h
    simp only [List.length_cons]
    omega
  | case3 read c rest _ ih =>
    have := ih h
    simp only [List.length_cons]
    omega

theorem splitClose_length {q : Bool} {read text body behind : List Char}
    (h : splitClose q read text = some (body, behind)) : behind.length < text.length := by
  fun_induction splitClose q read text
  all_goals grind

/-- The pieces of a text that starts at an offset, and the offset of a tag that does not close. -/
def piecesFrom (offset : Nat) (text : List Char) : List Piece × Option Nat :=
  match h : splitOpen [] text with
  | (before, none) => (textPiece before, none)
  | (before, some inside) =>
    let start := offset + Utf8.width before
    match h' : splitClose false [] inside with
    | none => (textPiece before, some start)
    | some (body, behind) =>
      have : behind.length < text.length :=
        Nat.lt_trans (splitClose_length h') (splitOpen_length h)
      let (pieces, open?) := piecesFrom (start + Utf8.width body + 4) behind
      (textPiece before ++ .tag start body.reverse :: pieces, open?)
termination_by text.length
where
  textPiece (before : List Char) : List Piece :=
    if before.isEmpty then [] else [.text before.reverse]

/-- The pieces of a source, and the offset of a tag that does not close. -/
def pieces (source : String) : List Piece × Option Nat :=
  piecesFrom 0 source.toList

end DaemonDialogue.Template
