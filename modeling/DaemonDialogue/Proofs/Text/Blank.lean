import DaemonDialogue.Text.Ascii
import DaemonDialogue.Text.Blank
import Mathlib.Tactic

/-!
# Texts without blanks at their ends

A text that neither starts nor ends with a blank is its own trimmed form.
-/

namespace DaemonDialogue.Blank

theorem isBlank_of_isDigit {c : Char} (h : Ascii.isDigit c = true) : isBlank c = false := by
  simp only [Ascii.isDigit, Bool.and_eq_true, decide_eq_true_eq, Char.le_def,
    UInt32.le_iff_toNat_le] at h
  have hrange : 48 ≤ c.toNat ∧ c.toNat ≤ 57 := h
  simp only [isBlank, Bool.or_eq_false_iff, Bool.and_eq_false_iff, beq_eq_false_iff_ne,
    decide_eq_false_iff_not]
  omega

theorem dropEndWhile_append {p : Char → Bool} (text : List Char) {last : Char}
    (h : p last = false) : dropEndWhile p (text ++ [last]) = text ++ [last] := by
  simp [dropEndWhile, h]

theorem trimChars_eq_self {text : List Char} (hfirst : ∀ c ∈ text.head?, isBlank c = false)
    (hlast : ∀ c ∈ text.getLast?, isBlank c = false) : trimChars text = text := by
  cases text with
  | nil => rfl
  | cons c rest =>
    have hc := hfirst c rfl
    rcases List.eq_nil_or_concat (c :: rest) with hnil | ⟨before, last, heq⟩
    · simp at hnil
    · rw [trimChars, List.dropWhile_cons_of_neg (by simp [hc])]
      rw [List.concat_eq_append] at heq
      rw [heq] at hlast ⊢
      exact dropEndWhile_append before (hlast last (by simp))

theorem trimChars_append (text : List Char) {mark : Char} {rest : List Char}
    (hmark : isBlank mark = false) (hlast : ∀ c ∈ (mark :: rest).getLast?, isBlank c = false) :
    trimChars (text ++ mark :: rest) = text.dropWhile isBlank ++ mark :: rest := by
  have hbegin : (text ++ mark :: rest).dropWhile isBlank =
      text.dropWhile isBlank ++ mark :: rest := by
    rw [List.dropWhile_append]
    split_ifs with h
    · rw [List.isEmpty_iff] at h
      rw [h, List.dropWhile_cons_of_neg (by simp [hmark]), List.nil_append]
    · rfl
  rcases List.eq_nil_or_concat (mark :: rest) with hnil | ⟨before, last, heq⟩
  · simp at hnil
  · rw [List.concat_eq_append] at heq
    rw [trimChars, hbegin, heq, ← List.append_assoc]
    rw [heq] at hlast
    exact dropEndWhile_append _ (hlast last (by simp))

theorem isBlank_getLast?_trimChars (text : List Char) {c : Char}
    (h : c ∈ (trimChars text).getLast?) : isBlank c = false := by
  rw [trimChars, dropEndWhile, List.getLast?_reverse] at h
  have hhead := List.head?_dropWhile_not isBlank (text.dropWhile isBlank).reverse
  rw [Option.mem_def.1 h] at hhead
  simpa using hhead

theorem dropEndWhile_concat {p : Char → Bool} (text : List Char) {last : Char}
    (h : p last = true) : dropEndWhile p (text ++ [last]) = dropEndWhile p text := by
  simp [dropEndWhile, h]

theorem trimChars_concat (text : List Char) {last : Char} (h : isBlank last = true) :
    trimChars (text ++ [last]) = trimChars text := by
  unfold trimChars
  rw [List.dropWhile_append]
  split_ifs with hempty
  · simp [List.isEmpty_iff.1 hempty, h]
  · exact dropEndWhile_concat _ h

theorem subset_trimChars (text : List Char) : trimChars text ⊆ text := by
  intro c hc
  have hreverse := List.dropWhile_subset _ (List.mem_reverse.1 hc)
  exact List.dropWhile_subset _ (List.mem_reverse.1 hreverse)

end DaemonDialogue.Blank
