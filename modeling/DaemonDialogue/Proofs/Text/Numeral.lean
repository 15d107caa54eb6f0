import DaemonDialogue.Text.Numeral
import Mathlib.Tactic

/-!
# Numerals and their values

A number within a bound is read back from its numeral, and what is read is within the bound.
-/

namespace DaemonDialogue.Numeral

theorem readDigits_le {bound value n : Nat} {digits : List Char} (hvalue : value ≤ bound)
    (h : readDigits bound value digits = .ok n) : n ≤ bound := by
  induction digits generalizing value with
  | nil =>
    obtain rfl := Except.ok.inj h
    exact hvalue
  | cons c digits ih =>
    rw [readDigits] at h
    split at h
    · cases h
    · split_ifs at h with hnext
      exact ih hnext h

theorem read_le {bound n : Nat} {text : String} (h : read bound text = .ok n) : n ≤ bound := by
  unfold read at h
  split at h
  · cases h
  · cases h
  · exact readDigits_le (Nat.zero_le _) h
  · exact readDigits_le (Nat.zero_le _) h

theorem isDigit_of_readDigits {bound value n : Nat} {digits : List Char}
    (h : readDigits bound value digits = .ok n) : ∀ c ∈ digits, Ascii.isDigit c = true := by
  induction digits generalizing value with
  | nil => simp
  | cons c digits ih =>
    rw [readDigits] at h
    split at h
    · cases h
    · next d hdigit =>
      split_ifs at h
      refine List.forall_mem_cons.2 ⟨?_, ih h⟩
      rw [Ascii.digit?] at hdigit
      split_ifs at hdigit with hc
      exact hc

/-- What is read as a number has digits only, but for a sign in front of them. -/
theorem isDigit_of_read {bound n : Nat} {text : String} (h : read bound text = .ok n) :
    ∀ c ∈ text.toList, c = '+' ∨ Ascii.isDigit c = true := by
  intro c hc
  unfold read at h
  split at h
  · cases h
  · cases h
  · next rest _ hsign =>
    rw [hsign] at hc
    rcases List.mem_cons.1 hc with rfl | hc
    · exact .inl rfl
    · exact .inr (isDigit_of_readDigits h c hc)
  · exact .inr (isDigit_of_readDigits h c hc)

theorem le_ofDigitChars (digits : List Char) (value : Nat) :
    value ≤ Nat.ofDigitChars 10 digits value := by
  rw [Nat.ofDigitChars_eq_ofDigitChars_zero]
  nlinarith [Nat.one_le_pow digits.length 10 (by decide)]

theorem readDigits_eq {bound value : Nat} {digits : List Char}
    (hdigits : ∀ c ∈ digits, Ascii.isDigit c = true)
    (h : Nat.ofDigitChars 10 digits value ≤ bound) :
    readDigits bound value digits = .ok (Nat.ofDigitChars 10 digits value) := by
  induction digits generalizing value with
  | nil => rfl
  | cons c digits ih =>
    obtain ⟨hc, hrest⟩ := List.forall_mem_cons.1 hdigits
    rw [Nat.ofDigitChars_cons] at h ⊢
    have hstep : value * 10 + (c.toNat - '0'.toNat) ≤ bound := by
      rw [Nat.mul_comm]
      exact (le_ofDigitChars digits _).trans h
    rw [readDigits, Ascii.digit?, if_pos hc]
    dsimp only
    rw [if_pos hstep, Nat.mul_comm, ih hrest h]

theorem readDigits_value {bound value n : Nat} {digits : List Char}
    (h : readDigits bound value digits = .ok n) : n = Nat.ofDigitChars 10 digits value := by
  induction digits generalizing value with
  | nil => exact (Except.ok.inj h).symm
  | cons c digits ih =>
    rw [readDigits] at h
    split at h
    · cases h
    · next d hdigit =>
      split_ifs at h
      rw [Ascii.digit?] at hdigit
      split_ifs at hdigit
      obtain rfl := Option.some.inj hdigit
      rw [ih h, Nat.ofDigitChars_cons, Nat.mul_comm]

/-- Is a text the numeral of a number: digits of its value, with a plus sign in front or without? -/
def Denotes (text : String) (n : Nat) : Prop :=
  ∃ digits, digits ≠ [] ∧ (∀ c ∈ digits, Ascii.isDigit c = true) ∧
    (text.toList = digits ∨ text.toList = '+' :: digits) ∧ n = Nat.ofDigitChars 10 digits 0

theorem readDigits_eq_ok_iff {bound n : Nat} {digits : List Char} :
    readDigits bound 0 digits = .ok n ↔
      (∀ c ∈ digits, Ascii.isDigit c = true) ∧ n = Nat.ofDigitChars 10 digits 0 ∧ n ≤ bound := by
  constructor
  · intro h
    exact ⟨isDigit_of_readDigits h, readDigits_value h, readDigits_le (Nat.zero_le _) h⟩
  · rintro ⟨hdigits, rfl, hle⟩
    exact readDigits_eq hdigits hle

/-- Just the numerals within the bound are read. -/
theorem read_eq_ok_iff {bound n : Nat} {text : String} :
    read bound text = .ok n ↔ Denotes text n ∧ n ≤ bound := by
  have hread (digits : List Char) (hne : digits ≠ []) (h : readDigits bound 0 digits = .ok n)
      (htext : text.toList = digits ∨ text.toList = '+' :: digits) :
      Denotes text n ∧ n ≤ bound := by
    obtain ⟨hdigits, hvalue, hle⟩ := readDigits_eq_ok_iff.1 h
    exact ⟨⟨digits, hne, hdigits, htext, hvalue⟩, hle⟩
  constructor
  · intro h
    unfold read at h
    split at h
    · cases h
    · cases h
    · next rest hsingle htext => exact hread rest hsingle h (.inr htext)
    · next hne _ _ => exact hread text.toList (fun hnil => hne hnil) h (.inl rfl)
  · rintro ⟨⟨digits, hne, hdigits, htext, hvalue⟩, hle⟩
    have hok := readDigits_eq_ok_iff.2 ⟨hdigits, hvalue, hle⟩
    have hplus : ∀ rest, digits ≠ '+' :: rest := by
      rintro rest rfl
      exact absurd (hdigits '+' List.mem_cons_self) (by decide)
    unfold read
    rcases htext with htext | htext
    all_goals rw [htext]
    · split
      · exact absurd rfl hne
      · next hsign => exact absurd rfl (hplus [])
      · next rest _ => exact absurd rfl (hplus rest)
      · exact hok
    · split
      · next hnil => cases hnil
      · next hsign => exact absurd (List.cons.inj hsign).2 hne
      · next rest _ hsign =>
        obtain rfl := (List.cons.inj hsign).2
        exact hok
      · next hother => exact absurd rfl (hother digits)

/-- A text is the numeral of one number at most. -/
theorem Denotes.unique {text : String} {n m : Nat} (hn : Denotes text n) (hm : Denotes text m) :
    n = m := by
  have hread := read_eq_ok_iff.2 ⟨hn, Nat.le_max_left n m⟩
  rw [read_eq_ok_iff.2 ⟨hm, Nat.le_max_right n m⟩] at hread
  exact (Except.ok.inj hread).symm

theorem isDigit_of_mem_toDigits {n : Nat} {c : Char} (h : c ∈ Nat.toDigits 10 n) :
    Ascii.isDigit c = true :=
  Nat.isDigit_of_mem_toDigits (by decide) (by decide) h

theorem read_toString {bound n : Nat} (h : n ≤ bound) : read bound (toString n) = .ok n := by
  have hchars : (toString n).toList = Nat.toDigits 10 n := String.toList_ofList
  have hvalue : Nat.ofDigitChars 10 (Nat.toDigits 10 n) 0 = n := Nat.ofDigitChars_ten_toDigits
  have hdigits : ∀ c ∈ (toString n).toList, Ascii.isDigit c = true := by
    intro c hc
    rw [hchars] at hc
    exact isDigit_of_mem_toDigits hc
  have hplus : ∀ rest, (toString n).toList ≠ '+' :: rest := by
    intro rest hsign
    exact absurd (hdigits '+' (by rw [hsign]; simp)) (by decide)
  have hread : readDigits bound 0 (toString n).toList = .ok n := by
    rw [← hchars] at hvalue
    rw [readDigits_eq hdigits (by rwa [hvalue]), hvalue]
  unfold read
  split
  · next hnil =>
    rw [hchars] at hnil
    exact absurd hnil Nat.toDigits_ne_nil
  · next hsign => exact absurd hsign (hplus [])
  · next rest _ hsign => exact absurd hsign (hplus rest)
  · exact hread

end DaemonDialogue.Numeral
