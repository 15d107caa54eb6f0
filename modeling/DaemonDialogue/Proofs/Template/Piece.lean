import DaemonDialogue.Template.Piece
import DaemonDialogue.Template.Printer
import Mathlib.Tactic

/-!
# Texts and tags side by side

How a source falls into pieces, from left to right: a text without opening braces goes up
to the next tag, and a tag up to its closing braces.
-/

namespace DaemonDialogue.Template

def openBraces : List Char := ['\x7b', '\x7b']

def Plain (text : List Char) : Prop := ¬openBraces <:+: text

instance (text : List Char) : Decidable (Plain text) :=
  inferInstanceAs (Decidable (¬_))

theorem plain_cons {c : Char} {text : List Char} :
    Plain (c :: text) ↔ ¬(c = '\x7b' ∧ text.head? = some '\x7b') ∧ Plain text := by
  unfold Plain
  rw [List.infix_cons_iff, not_or]
  cases text <;> simp [openBraces, eq_comm (a := '\x7b')]

/-- A brace behind a text opens a tag with the last character only. -/
theorem plain_concat {text : List Char} :
    Plain (text ++ ['\x7b']) ↔ Plain text ∧ text.getLast? ≠ some '\x7b' := by
  induction text with
  | nil => decide
  | cons c text ih =>
    rw [List.cons_append, plain_cons, plain_cons, ih]
    cases text with
    | nil => simp [and_comm]
    | cons d text => simp [and_assoc]

theorem splitOpen_plain (read : List Char) {text : List Char} (h : Plain text) :
    splitOpen read text = (text.reverse ++ read, none) := by
  fun_induction splitOpen read text with
  | case1 => rfl
  | case2 read rest => exact absurd h (by simp [plain_cons])
  | case3 read c rest hne ih => simp [ih (plain_cons.1 h).2]

/-- A text goes up to the next opening braces, unless it ends in a brace of its own. -/
theorem splitOpen_append (read : List Char) {text : List Char} (inside : List Char)
    (h : Plain (text ++ ['\x7b'])) :
    splitOpen read (text ++ openBraces ++ inside) = (text.reverse ++ read, some inside) := by
  induction text generalizing read with
  | nil => simp [openBraces, splitOpen]
  | cons c text ih =>
    obtain ⟨hc, htext⟩ := plain_cons.1 h
    have hne : ∀ rest, c = '\x7b' → text ++ openBraces ++ inside = '\x7b' :: rest → False := by
      intro rest hopen hrest
      refine hc ⟨hopen, ?_⟩
      cases text with
      | nil => rfl
      | cons d text => simpa using congrArg List.head? hrest
    rw [List.cons_append, List.cons_append, splitOpen.eq_3 _ _ _ hne, ih (c :: read) htext]
    simp

theorem eq_of_splitOpen_some {read text before behind : List Char}
    (h : splitOpen read text = (before, some behind)) :
    ∃ content, before = content.reverse ++ read ∧ text = content ++ openBraces ++ behind ∧
      Plain (content ++ ['\x7b']) := by
  fun_induction splitOpen read text with
  | case1 => simp at h
  | case2 read rest =>
    obtain ⟨rfl, rfl⟩ := by simpa using h
    exact ⟨[], rfl, rfl, by decide⟩
  | case3 read c rest hne ih =>
    obtain ⟨content, rfl, hrest, hplain⟩ := ih h
    refine ⟨c :: content, by simp, by simp [hrest], plain_cons.2 ⟨?_, hplain⟩⟩
    rintro ⟨hopen, hhead⟩
    cases content with
    | nil => exact hne _ hopen hrest
    | cons d content =>
      obtain rfl : d = '\x7b' := by simpa using hhead
      exact hne _ hopen hrest

theorem eq_of_splitOpen_none {read text before : List Char}
    (h : splitOpen read text = (before, none)) : before = text.reverse ++ read ∧ Plain text := by
  fun_induction splitOpen read text with
  | case1 =>
    obtain rfl := by simpa using h
    exact ⟨rfl, by decide⟩
  | case2 => simp at h
  | case3 read c rest hne ih =>
    obtain ⟨rfl, hplain⟩ := ih h
    refine ⟨by simp, plain_cons.2 ⟨?_, hplain⟩⟩
    rintro ⟨hopen, hhead⟩
    obtain ⟨rest, rfl⟩ := List.head?_eq_some_iff.1 hhead
    exact hne rest hopen rfl

/-! ## Tags -/

theorem splitClose_other (read : List Char) {c : Char} {rest : List Char} (h : c ≠ '"')
    (hbrace : c = '\x7d' → rest.head? ≠ some '\x7d') :
    splitClose false read (c :: rest) = splitClose false (c :: read) rest := by
  rw [splitClose.eq_def]
  dsimp only
  rw [if_neg (by simpa using h), if_neg (by decide)]
  split
  · next behind => exact absurd rfl (hbrace rfl)
  · rfl

theorem splitClose_plain (read : List Char) {c : Char} (rest : List Char)
    (h : c ≠ '"' ∧ c ≠ '\x7d') :
    splitClose false read (c :: rest) = splitClose false (c :: read) rest :=
  splitClose_other read h.1 fun hc => absurd hc h.2

theorem splitClose_quote (inQuotes : Bool) (read rest : List Char) :
    splitClose inQuotes read ('"' :: rest) = splitClose (!inQuotes) ('"' :: read) rest := by
  rw [splitClose.eq_def]
  simp

theorem splitClose_escape (read : List Char) (c : Char) (rest : List Char) :
    splitClose true read ('\\' :: c :: rest) = splitClose true (c :: '\\' :: read) rest := by
  rw [splitClose.eq_def]
  simp

theorem splitClose_quoted (read : List Char) {c : Char} (rest : List Char)
    (h : c ≠ '"' ∧ c ≠ '\\') :
    splitClose true read (c :: rest) = splitClose true (c :: read) rest := by
  rw [splitClose.eq_def]
  simp [h.1, h.2]

/-- Outside of quotes and without closing braces a tag goes on. -/
theorem splitClose_append (read : List Char) {text : List Char} (rest : List Char)
    (h : ∀ c ∈ text, c ≠ '"' ∧ c ≠ '\x7d') :
    splitClose false read (text ++ rest) = splitClose false (text.reverse ++ read) rest := by
  induction text generalizing read with
  | nil => rfl
  | cons c text ih =>
    rw [List.cons_append, splitClose_plain _ _ (h c (by simp)),
      ih _ fun d hd => h d (by simp [hd])]
    simp

/-- Inside of quotes an escaped argument goes by, whatever it holds. -/
theorem splitClose_escaped (read argument rest : List Char) :
    splitClose true read (argument.flatMap escaped ++ rest) =
      splitClose true ((argument.flatMap escaped).reverse ++ read) rest := by
  induction argument generalizing read with
  | nil => rfl
  | cons c argument ih =>
    rw [List.flatMap_cons, List.append_assoc, List.reverse_append, List.append_assoc, ← ih]
    unfold escaped
    split_ifs with hc
    · exact splitClose_escape read c _
    · exact splitClose_quoted read _ (by simpa using hc)

/-- A body closes at the closing braces behind it. -/
def Closes (body : List Char) : Prop :=
  ∀ rest, splitClose false [] (body ++ '\x7d' :: '\x7d' :: rest) = some (body.reverse, rest)

theorem splitClose_close (read rest : List Char) :
    splitClose false read ('\x7d' :: '\x7d' :: rest) = some (read, rest) := by
  rw [splitClose.eq_def]
  simp

theorem eq_of_splitClose_some {inQuotes : Bool} {read text body behind : List Char}
    (h : splitClose inQuotes read text = some (body, behind)) :
    ∃ content, body = content.reverse ++ read ∧ text = content ++ '\x7d' :: '\x7d' :: behind ∧
      ∀ rest, splitClose inQuotes read (content ++ '\x7d' :: '\x7d' :: rest) =
        some (body, rest) := by
  fun_induction splitClose inQuotes read text with
  | case1 => cases h
  | case2 inQuotes read c rest hquote ih =>
    obtain rfl : c = '"' := by simpa using hquote
    obtain ⟨content, rfl, rfl, hclose⟩ := ih h
    refine ⟨'"' :: content, by simp, rfl, fun rest => ?_⟩
    rw [List.cons_append, splitClose_quote, hclose]
  | case3 => cases h
  | case4 read c hquote hescape d rest ih =>
    obtain rfl : c = '\\' := by simpa using hescape
    obtain ⟨content, rfl, rfl, hclose⟩ := ih h
    refine ⟨'\\' :: d :: content, by simp, rfl, fun rest => ?_⟩
    rw [List.cons_append, List.cons_append, splitClose_escape, hclose]
  | case5 read c rest hquote hescape ih =>
    obtain ⟨content, rfl, rfl, hclose⟩ := ih h
    refine ⟨c :: content, by simp, rfl, fun rest => ?_⟩
    rw [List.cons_append, splitClose_quoted _ _ ⟨by simpa using hquote, by simpa using hescape⟩,
      hclose]
  | case6 inQuotes read hout behind' =>
    obtain rfl : inQuotes = false := by simpa using hout
    obtain ⟨rfl, rfl⟩ := Prod.ext_iff.1 (Option.some.inj h)
    exact ⟨[], rfl, rfl, splitClose_close read⟩
  | case7 inQuotes read hout c rest hclose hquote ih =>
    obtain rfl : inQuotes = false := by simpa using hout
    obtain ⟨content, rfl, rfl, hrest⟩ := ih h
    have hbrace : ∀ rest, c = '\x7d' →
        (content ++ '\x7d' :: '\x7d' :: rest).head? ≠ some '\x7d' := by
      rintro rest hc hhead
      cases content with
      | nil => exact hclose _ hc rfl
      | cons d content =>
        obtain rfl : d = '\x7d' := by simpa using hhead
        exact hclose _ hc rfl
    refine ⟨c :: content, by simp, rfl, fun rest => ?_⟩
    rw [List.cons_append, splitClose_other _ (by simpa using hquote) (hbrace rest), hrest]

theorem closes_of_plain {body : List Char} (h : ∀ c ∈ body, c ≠ '"' ∧ c ≠ '\x7d') :
    Closes body := by
  intro rest
  rw [splitClose_append [] _ h, splitClose_close, List.append_nil]

theorem closes_argument {before : List Char} (h : ∀ c ∈ before, c ≠ '"' ∧ c ≠ '\x7d')
    (argument : List Char) : Closes (before ++ argumentChars argument) := by
  intro rest
  rw [argumentChars, List.append_assoc, splitClose_append [] _ h, List.cons_append,
    List.cons_append, splitClose_quote, List.append_assoc, List.singleton_append, Bool.not_false,
    splitClose_escaped, splitClose_quote, Bool.not_true, splitClose_close]
  simp

/-! ## Pieces -/

/-- Does a source go on with a tag, or not at all? -/
def AtTag (text : List Char) : Prop := text = [] ∨ openBraces <+: text

theorem piecesFrom_of_text {text before : List Char} (offset : Nat)
    (h : splitOpen [] text = (before, none)) :
    piecesFrom offset text = (piecesFrom.textPiece before, none) := by
  rw [piecesFrom]
  split
  · next h' =>
    obtain ⟨rfl, -⟩ := Prod.ext_iff.1 (h.symm.trans h')
    rfl
  · next h' => simp [h] at h'

theorem piecesFrom_of_open {text before inside : List Char} (offset : Nat)
    (h : splitOpen [] text = (before, some inside)) (hclose : splitClose false [] inside = none) :
    piecesFrom offset text =
      (piecesFrom.textPiece before, some (offset + Utf8.width before)) := by
  rw [piecesFrom]
  split
  · next h' => simp [h] at h'
  · next before' inside' h' =>
    obtain ⟨rfl, rfl⟩ : before = before' ∧ inside = inside' := by simpa [h] using h'
    dsimp only
    split
    · rfl
    · next h' => simp [hclose] at h'

theorem piecesFrom_of_tag {text before inside body behind : List Char} (offset : Nat)
    (h : splitOpen [] text = (before, some inside))
    (hclose : splitClose false [] inside = some (body, behind)) :
    let start := offset + Utf8.width before
    let rest := piecesFrom (start + Utf8.width body + 4) behind
    piecesFrom offset text =
      (piecesFrom.textPiece before ++ .tag start body.reverse :: rest.1, rest.2) := by
  rw [piecesFrom]
  split
  · next h' => simp [h] at h'
  · next before' inside' h' =>
    obtain ⟨rfl, rfl⟩ : before = before' ∧ inside = inside' := by simpa [h] using h'
    dsimp only
    split
    · next h' => simp [hclose] at h'
    · next body' behind' h' =>
      obtain ⟨rfl, rfl⟩ : body = body' ∧ behind = behind' := by simpa [hclose] using h'
      rfl

theorem splitOpen_nil : splitOpen [] [] = ([], none) := rfl

theorem splitOpen_nil_open (inside : List Char) :
    splitOpen [] (openBraces ++ inside) = ([], some inside) := by
  simp [openBraces, splitOpen]

theorem piecesFrom_text (offset : Nat) {text rest : List Char} (hne : text ≠ [])
    (hplain : Plain text) (hbrace : rest ≠ [] → text.getLast? ≠ some '\x7b') (hrest : AtTag rest) :
    ∃ next, piecesFrom offset (text ++ rest) =
      (.text text :: (piecesFrom next rest).1, (piecesFrom next rest).2) := by
  have hpiece : piecesFrom.textPiece text.reverse = [.text text] := by
    simp [piecesFrom.textPiece, hne]
  refine ⟨offset + Utf8.width text.reverse, ?_⟩
  rcases hrest with rfl | ⟨inside, rfl⟩
  · have hsplit := splitOpen_plain [] hplain
    rw [List.append_nil, piecesFrom_of_text offset (by simpa using hsplit),
      piecesFrom_of_text _ splitOpen_nil, hpiece]
    rfl
  · have hsplit := splitOpen_append [] inside
      (plain_concat.2 ⟨hplain, hbrace (by simp [openBraces])⟩)
    rw [List.append_assoc, List.append_nil] at hsplit
    cases hclose : splitClose false [] inside with
    | none =>
      rw [piecesFrom_of_open offset hsplit hclose,
        piecesFrom_of_open _ (splitOpen_nil_open inside) hclose, hpiece]
      rfl
    | some split =>
      obtain ⟨body, behind⟩ := split
      rw [piecesFrom_of_tag offset hsplit hclose,
        piecesFrom_of_tag _ (splitOpen_nil_open inside) hclose, hpiece]
      rfl

theorem piecesFrom_tag (offset : Nat) {body : List Char} (rest : List Char) (h : Closes body) :
    ∃ next, piecesFrom offset (tagChars body ++ rest) =
      (.tag offset body :: (piecesFrom next rest).1, (piecesFrom next rest).2) := by
  have hclose : splitClose false [] (body ++ '\x7d' :: '\x7d' :: rest) =
      some (body.reverse, rest) := h rest
  have htag : tagChars body ++ rest = openBraces ++ (body ++ '\x7d' :: '\x7d' :: rest) := by
    simp [tagChars, openBraces]
  refine ⟨offset + Utf8.width [] + Utf8.width body.reverse + 4, ?_⟩
  rw [htag, piecesFrom_of_tag offset (splitOpen_nil_open _) hclose, List.reverse_reverse]
  rfl

/-! ## What pieces there are -/

/-- Texts are not empty, hold no opening braces, stand one at a time, and end in a brace
at the end of the source only. -/
def Fits : List Piece → Prop
  | [] => True
  | .text content :: rest =>
    content ≠ [] ∧ Plain content ∧ (rest ≠ [] → content.getLast? ≠ some '\x7b') ∧
      (∀ other ∈ rest.head?, ∀ text, other ≠ .text text) ∧ Fits rest
  | .tag _ _ :: rest => Fits rest

theorem fits_textPiece {text : List Char} (h : Plain text) :
    Fits (piecesFrom.textPiece text.reverse) := by
  unfold piecesFrom.textPiece
  split_ifs with hempty
  · trivial
  · simpa [Fits] using ⟨by simpa using hempty, h⟩

theorem fits_textPiece_tag {text : List Char} (h : Plain (text ++ ['\x7b'])) (offset : Nat)
    (body : List Char) {rest : List Piece} (hrest : Fits rest) :
    Fits (piecesFrom.textPiece text.reverse ++ .tag offset body :: rest) := by
  obtain ⟨hplain, hbrace⟩ := plain_concat.1 h
  unfold piecesFrom.textPiece
  split_ifs with hempty
  · exact hrest
  · rw [List.reverse_reverse]
    exact ⟨by simpa using hempty, hplain, fun _ => hbrace, by simp, hrest⟩

theorem piecesFrom_fits (offset : Nat) (text : List Char) : Fits (piecesFrom offset text).1 := by
  induction hlength : text.length using Nat.strong_induction_on generalizing offset text with
  | _ length ih =>
    rcases hsplit : splitOpen [] text with ⟨before, _ | inside⟩
    · obtain ⟨rfl, hplain⟩ := eq_of_splitOpen_none hsplit
      rw [piecesFrom_of_text offset hsplit, List.append_nil]
      exact fits_textPiece hplain
    · have hinside := splitOpen_length hsplit
      obtain ⟨content, rfl, -, hplain⟩ := eq_of_splitOpen_some hsplit
      rw [List.append_nil] at hsplit
      cases hclose : splitClose false [] inside with
      | none =>
        rw [piecesFrom_of_open offset hsplit hclose]
        exact fits_textPiece (plain_concat.1 hplain).1
      | some split =>
        obtain ⟨body, behind⟩ := split
        have hbehind := splitClose_length hclose
        rw [piecesFrom_of_tag offset hsplit hclose]
        exact fits_textPiece_tag hplain _ _ (ih behind.length (by omega) _ behind rfl)

end DaemonDialogue.Template
