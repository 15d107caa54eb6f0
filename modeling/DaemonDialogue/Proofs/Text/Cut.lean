import DaemonDialogue.Text.Cut
import Mathlib.Data.List.TakeWhile
import Mathlib.Tactic

/-!
# Lists in pieces

A list that is cut behind every place of an element: every piece but the last ends in the
element and has it nowhere else. A list that is cut at the first or the last place of an element,
or behind a beginning, is what the parts make up again.
-/

namespace DaemonDialogue.Cut

variable {α : Type}

/-- Does a list end in an element, unless it is empty? -/
def Whole (mark : α) (text : List α) : Prop := ∀ last ∈ text.getLast?, last = mark

theorem Whole.eq_nil {mark : α} {text : List α} (h : Whole mark text) (hmark : mark ∉ text) :
    text = [] := by
  rcases List.eq_nil_or_concat text with rfl | ⟨before, last, rfl⟩
  · rfl
  · obtain rfl : last = mark := h last (by simp)
    simp at hmark

theorem whole_append_mark {mark : α} (before after : List α) :
    Whole mark (before ++ mark :: after) ↔ Whole mark after := by
  cases after with
  | nil => simp [Whole]
  | cons b after => simp [Whole, List.getLast?_append]

variable [DecidableEq α]

instance (mark : α) : DecidablePred (Whole mark) := fun text =>
  inferInstanceAs (Decidable (∀ last ∈ text.getLast?, last = mark))

/-- A list cut behind every place of an element; nothing behind the last one is no piece. -/
def pieces (mark : α) : List α → List (List α)
  | [] => []
  | a :: rest =>
    if a = mark then [a] :: pieces mark rest
    else
      match pieces mark rest with
      | [] => [[a]]
      | piece :: more => (a :: piece) :: more

theorem pieces_ne_nil (mark : α) {text : List α} (h : text ≠ []) : pieces mark text ≠ [] := by
  cases text with
  | nil => exact absurd rfl h
  | cons a rest =>
    unfold pieces
    split_ifs
    · simp
    · split <;> simp

theorem pieces_mark {mark : α} {before : List α} (h : mark ∉ before) (after : List α) :
    pieces mark (before ++ mark :: after) = (before ++ [mark]) :: pieces mark after := by
  induction before with
  | nil => simp [pieces]
  | cons a before ih =>
    obtain ⟨ha, hbefore⟩ := not_or.1 (mt List.mem_cons.2 h)
    rw [List.cons_append, pieces, if_neg (Ne.symm ha), ih hbefore]
    rfl

theorem pieces_of_notMem {mark : α} {text : List α} (h : mark ∉ text) (hne : text ≠ []) :
    pieces mark text = [text] := by
  induction text with
  | nil => exact absurd rfl hne
  | cons a rest ih =>
    obtain ⟨ha, hrest⟩ := not_or.1 (mt List.mem_cons.2 h)
    rw [pieces, if_neg (Ne.symm ha)]
    cases rest with
    | nil => rfl
    | cons b rest => rw [ih hrest (by simp)]

/-- A list is without an element, or has a first place of it. -/
theorem pieces_induction (mark : α) {P : List α → Prop}
    (last : ∀ text, mark ∉ text → P text)
    (mark_ : ∀ before after, mark ∉ before → P after → P (before ++ mark :: after))
    (text : List α) : P text := by
  by_cases h : mark ∈ text
  · obtain ⟨before, after, rfl, hbefore⟩ := List.eq_append_cons_of_mem h
    exact mark_ before after hbefore (pieces_induction mark last mark_ after)
  · exact last text h
termination_by text.length
decreasing_by
  subst_vars
  simp only [List.length_append, List.length_cons]
  omega

theorem of_mem_pieces {mark : α} {text piece : List α} (h : piece ∈ pieces mark text) :
    ∃ before, mark ∉ before ∧ (piece = before ∨ piece = before ++ [mark]) := by
  induction text using pieces_induction mark with
  | last text htext =>
    by_cases hne : text = []
    · simp [hne, pieces] at h
    · rw [pieces_of_notMem htext hne] at h
      obtain rfl := List.mem_singleton.1 h
      exact ⟨piece, htext, .inl rfl⟩
  | mark_ before after hbefore ih =>
    rw [pieces_mark hbefore] at h
    rcases List.mem_cons.1 h with rfl | h
    · exact ⟨before, hbefore, .inr rfl⟩
    · exact ih h

theorem pieces_append {mark : α} {before : List α} (after : List α) (h : Whole mark before) :
    pieces mark (before ++ after) = pieces mark before ++ pieces mark after := by
  induction before using pieces_induction mark with
  | last text hmark =>
    obtain rfl := h.eq_nil hmark
    rfl
  | mark_ first rest hfirst ih =>
    rw [List.append_assoc, List.cons_append, pieces_mark hfirst, pieces_mark hfirst,
      ih ((whole_append_mark _ _).1 h), List.cons_append]

/-! ## Cuts at one place -/

theorem behind?_eq_some_iff {beginning text rest : List α} :
    behind? beginning text = some rest ↔ text = beginning ++ rest := by
  induction beginning generalizing text with
  | nil => simp [behind?]
  | cons a beginning ih =>
    cases text with
    | nil => simp [behind?]
    | cons b text =>
      rw [behind?]
      split_ifs with h
      · subst h
        simp [ih]
      · simp [Ne.symm h]

theorem behind?_eq_none_iff {beginning text : List α} :
    behind? beginning text = none ↔ ¬beginning <+: text := by
  constructor
  · rintro hnone ⟨rest, rfl⟩
    have hsome := behind?_eq_some_iff.2 (rfl : beginning ++ rest = beginning ++ rest)
    rw [hsome] at hnone
    cases hnone
  · intro h
    cases hbehind : behind? beginning text with
    | none => rfl
    | some rest => exact absurd ⟨rest, (behind?_eq_some_iff.1 hbehind).symm⟩ h

theorem atFirst?_append {a : α} {before : List α} (h : a ∉ before) (after : List α) :
    atFirst? a (before ++ a :: after) = some (before, after) := by
  have hbefore : ∀ b ∈ before, decide (b ≠ a) = true := by
    intro b hb
    apply decide_eq_true
    rintro rfl
    exact h hb
  rw [atFirst?, List.dropWhile_append_of_pos hbefore, List.takeWhile_append_of_pos hbefore,
    List.dropWhile_cons_of_neg (by simp), List.takeWhile_cons_of_neg (by simp), List.append_nil]

theorem atFirst?_eq_none_iff {a : α} {text : List α} : atFirst? a text = none ↔ a ∉ text := by
  constructor
  · intro h hmem
    obtain ⟨before, after, rfl, hbefore⟩ := List.eq_append_cons_of_mem hmem
    rw [atFirst?_append hbefore] at h
    cases h
  · intro h
    have htext : text.dropWhile (· ≠ a) = [] := by
      refine List.dropWhile_eq_nil_iff.2 ?_
      intro b hb
      apply decide_eq_true
      rintro rfl
      exact h hb
    rw [atFirst?, htext]

/-- The first place of an element is the one with none before it. -/
theorem atFirst?_eq_some_iff {a : α} {text before after : List α} :
    atFirst? a text = some (before, after) ↔ text = before ++ a :: after ∧ a ∉ before := by
  constructor
  · intro h
    by_cases ha : a ∈ text
    · obtain ⟨first, rest, rfl, hfirst⟩ := List.eq_append_cons_of_mem ha
      rw [atFirst?_append hfirst] at h
      obtain ⟨rfl, rfl⟩ := Prod.mk.inj (Option.some.inj h)
      exact ⟨rfl, hfirst⟩
    · rw [atFirst?_eq_none_iff.2 ha] at h
      cases h
  · rintro ⟨rfl, hbefore⟩
    exact atFirst?_append hbefore after

theorem atLast?_eq_some_iff {a : α} {text before after : List α} :
    atLast? a text = some (before, after) ↔ text = before ++ a :: after ∧ a ∉ after := by
  constructor
  · intro h
    obtain ⟨⟨behind, first⟩, hfirst, hrange⟩ := Option.map_eq_some_iff.1 h
    obtain ⟨rfl, rfl⟩ := Prod.mk.inj hrange
    obtain ⟨htext, hbehind⟩ := atFirst?_eq_some_iff.1 hfirst
    refine ⟨?_, by simpa using hbehind⟩
    rw [← List.reverse_reverse text, htext]
    simp
  · rintro ⟨rfl, hafter⟩
    have hreverse : (before ++ a :: after).reverse = after.reverse ++ a :: before.reverse := by
      simp
    rw [atLast?, hreverse, atFirst?_append (by simpa using hafter)]
    simp

theorem atLast?_eq_none_iff {a : α} {text : List α} : atLast? a text = none ↔ a ∉ text := by
  rw [atLast?, Option.map_eq_none_iff, atFirst?_eq_none_iff, List.mem_reverse]

end DaemonDialogue.Cut
