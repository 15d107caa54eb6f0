import DaemonDialogue.Proofs.Text.Blank
import DaemonDialogue.Proofs.Text.Numeral
import DaemonDialogue.Time.Timestamp
import Mathlib.Data.List.TakeWhile
import Mathlib.Tactic

/-!
# Written dates and times

A number within its width is read from its digits, and the fraction of a second from as many
groups of three digits as it has. So a moment of the years with four digits is read back from its
text, unless it is a leap second.
-/

namespace DaemonDialogue

/-! ## Digits -/

namespace Numeral

/-- Is a character none that digits can go on with? -/
def Ends (rest : List Char) : Prop := ∀ c ∈ rest.head?, Ascii.isDigit c = false

theorem takeWhile_isDigit {digits rest : List Char} (h : ∀ c ∈ digits, Ascii.isDigit c = true)
    (hrest : Ends rest) : (digits ++ rest).takeWhile Ascii.isDigit = digits := by
  rw [List.takeWhile_append_of_pos h]
  cases rest with
  | nil => simp
  | cons c rest => simp [hrest c rfl]

theorem digitsValue_eq (digits : List Char) :
    Ascii.digitsValue digits = Nat.ofDigitChars 10 digits 0 := by
  have hstep : (fun (n : Nat) (c : Char) => n * 10 + (c.toNat - '0'.toNat)) =
      fun n c => 10 * n + (c.toNat - '0'.toNat) := by
    funext n c
    rw [Nat.mul_comm]
  rw [Ascii.digitsValue, Nat.ofDigitChars, hstep]

theorem digitsValue_zeros (n : Nat) (digits : List Char) :
    Ascii.digitsValue (List.replicate n '0' ++ digits) = Ascii.digitsValue digits := by
  induction n with
  | zero => rfl
  | succ n ih =>
    rw [← ih, List.replicate_succ, List.cons_append, digitsValue_eq, digitsValue_eq,
      Nat.ofDigitChars_cons]
    rfl

theorem isDigit_padded (width value : Nat) :
    ∀ c ∈ (padded width value).toList, Ascii.isDigit c = true := by
  intro c hc
  rw [padded, String.toList_ofList, List.mem_append] at hc
  rcases hc with hzero | hdigit
  · rw [List.eq_of_mem_replicate hzero]
    rfl
  · exact isDigit_of_mem_toDigits hdigit

theorem digitsValue_padded (width value : Nat) :
    Ascii.digitsValue (padded width value).toList = value := by
  rw [padded, String.toList_ofList, digitsValue_zeros, digitsValue_eq,
    Nat.ofDigitChars_ten_toDigits]

variable {width value : Nat}

theorem length_padded (hwidth : 0 < width) (h : value < 10 ^ width) :
    (padded width value).toList.length = width := by
  have hlength := (Nat.length_toDigits_le_iff (by decide : 1 < 10) hwidth).2 h
  rw [padded, String.toList_ofList, List.length_append, List.length_replicate]
  omega

theorem exists_padded (hwidth : 0 < width) (h : value < 10 ^ width) :
    ∃ c digits, (padded width value).toList = c :: digits ∧ Ascii.isDigit c = true := by
  have hlength := length_padded hwidth h
  cases hdigits : (padded width value).toList with
  | nil =>
    rw [hdigits, List.length_nil] at hlength
    omega
  | cons c digits => exact ⟨c, digits, rfl, isDigit_padded width value c (by simp [hdigits])⟩

end Numeral

namespace Timestamp

open Blank (isBlank_of_isDigit)
open Numeral (padded)

variable {width value : Nat} {rest : List Char}

/-! ## Parts -/

theorem number_padded (hwidth : 0 < width) (h : value < 10 ^ width) (rest : List Char) :
    number width ((padded width value).toList ++ rest) = some (value, rest) := by
  have hvalue := Numeral.digitsValue_padded width value
  have hlength := Numeral.length_padded hwidth h
  have hdigits := Numeral.isDigit_padded width value
  obtain ⟨c, digits, hchars, hc⟩ := Numeral.exists_padded hwidth h
  rw [hchars] at hvalue hlength hdigits ⊢
  have htake : (c :: digits ++ rest).take width = c :: digits := by
    rw [List.take_append_of_le_length hlength.ge, List.take_of_length_le hlength.le]
  have hwhole : (c :: digits).takeWhile Ascii.isDigit = c :: digits :=
    List.takeWhile_eq_self_iff.2 hdigits
  rw [number, List.cons_append, List.dropWhile_cons_of_neg (by simp [isBlank_of_isDigit hc]),
    ← List.cons_append, htake, hwhole]
  dsimp only
  rw [hvalue, List.drop_left]

theorem calendarYear_padded (h : value < 10000) (rest : List Char) :
    calendarYear ((padded 4 value).toList ++ rest) = some ((value : Int), rest) := by
  have hnumber := number_padded (by decide : 0 < 4) h rest
  obtain ⟨c, digits, hchars, hc⟩ := Numeral.exists_padded (by decide : 0 < 4) h
  rw [hchars] at hnumber ⊢
  rw [calendarYear, List.cons_append,
    List.dropWhile_cons_of_neg (by simp [isBlank_of_isDigit hc]), ← List.cons_append]
  split
  · next heq =>
    obtain ⟨rfl, -⟩ := List.cons_eq_cons.1 heq
    exact absurd hc (by decide)
  · next heq =>
    obtain ⟨rfl, -⟩ := List.cons_eq_cons.1 heq
    exact absurd hc (by decide)
  · rw [hnumber]
    rfl

theorem mark_cons {c : Char} (h : isBlank c = false) (rest : List Char) :
    mark c (c :: rest) = some ((), rest) := by
  rw [mark, List.dropWhile_cons_of_neg (by simp [h])]
  simp

theorem fraction_padded (hwidth : 0 < width) (hnine : width ≤ 9) (h : value < 10 ^ width)
    (hrest : Numeral.Ends rest) :
    fraction ('.' :: ((padded width value).toList ++ rest)) =
      some (value * 10 ^ (9 - width), rest) := by
  have hvalue := Numeral.digitsValue_padded width value
  have hlength := Numeral.length_padded hwidth h
  have hdigits := Numeral.isDigit_padded width value
  obtain ⟨c, digits, hchars, -⟩ := Numeral.exists_padded hwidth h
  rw [hchars] at hvalue hlength hdigits ⊢
  have htake : (c :: digits).take 9 = c :: digits :=
    List.take_of_length_le (hlength.le.trans hnine)
  rw [fraction]
  simp only [Numeral.takeWhile_isDigit hdigits hrest]
  rw [htake, hvalue, List.drop_left, hlength]
  rfl

theorem fraction_fractionText {nano : Nat} (h : nano < 1000000000)
    (hrest : Numeral.Ends rest) (hpoint : rest.head? ≠ some '.') :
    fraction ((fractionText nano).toList ++ rest) = some (nano, rest) := by
  unfold fractionText
  split_ifs with hzero hmillis hmicros
  · obtain rfl := eq_of_beq hzero
    rw [String.toList_empty, List.nil_append]
    unfold fraction
    split
    · next heq => exact absurd rfl hpoint
    · rfl
  · have hmod := eq_of_beq hmillis
    have hfraction := fraction_padded (by decide : 0 < 3) (by decide)
      (by omega : nano / 1000000 < 10 ^ 3) hrest
    rw [show nano / 1000000 * 10 ^ (9 - 3) = nano by omega] at hfraction
    simpa using hfraction
  · have hmod := eq_of_beq hmicros
    have hfraction := fraction_padded (by decide : 0 < 6) (by decide)
      (by omega : nano / 1000 < 10 ^ 6) hrest
    rw [show nano / 1000 * 10 ^ (9 - 6) = nano by omega] at hfraction
    simpa using hfraction
  · have hfraction := fraction_padded (by decide : 0 < 9) le_rfl
      (by omega : nano < 10 ^ 9) hrest
    simpa using hfraction

theorem withoutOffset_zero {t : Timestamp} (hhour : t.hour < 24) (hminute : t.minute < 60) :
    t.withoutOffset 0 = t := by
  have hlow : ¬((t.hour : Int) * 60 + t.minute - 0 < 0) := by omega
  have hhigh : ¬(1440 ≤ (t.hour : Int) * 60 + t.minute - 0) := by omega
  have htotal : (((t.hour : Int) * 60 + t.minute - 0) % 1440).toNat = t.hour * 60 + t.minute := by
    omega
  have hhours : (t.hour * 60 + t.minute) / 60 = t.hour := by omega
  have hminutes : (t.hour * 60 + t.minute) % 60 = t.minute := by omega
  simp only [withoutOffset, if_neg hlow, if_neg hhigh, htotal, hhours, hminutes]

/-! ## Moments -/

/-- A moment of a year with four digits is read back from its text. -/
theorem read_render {t : Timestamp} (h : t.IsValid) (hyear : 0 ≤ t.year ∧ t.year ≤ 9999)
    (hsecond : t.second < 60) : Timestamp.read t.render = some t := by
  obtain ⟨year, month, day, hour, minute, second, nano⟩ := t
  dsimp only at hyear hsecond
  obtain ⟨year, rfl⟩ := Int.eq_ofNat_of_zero_le hyear.1
  have hvalid := h
  obtain ⟨-, hmonth, -, hday, hhour, hminute, -, hnano⟩ := h
  dsimp only at hmonth hday hhour hminute hnano
  have hdays : day ≤ 31 := by
    refine hday.trans ?_
    unfold daysIn
    split_ifs <;> decide
  have htext : (render ⟨year, month, day, hour, minute, second, nano⟩).toList =
      (padded 4 year).toList ++ '-' :: ((padded 2 month).toList ++ '-' ::
        ((padded 2 day).toList ++ 'T' :: ((padded 2 hour).toList ++ ':' ::
          ((padded 2 minute).toList ++ ':' :: ((padded 2 second).toList ++
            ((fractionText nano).toList ++ ['Z'])))))) := by
    simp [render, yearText, hyear.2]
  have hcalendar : inCalendar ⟨year, month, day, hour, minute, second, nano⟩ = true := by
    simp only [inCalendar, Bool.and_eq_true, decide_eq_true_eq]
    omega
  have hutc : withoutOffset ⟨year, month, day, hour, minute, second, nano⟩ 0 = _ :=
    withoutOffset_zero hhour hminute
  have hfraction : fraction ((fractionText nano).toList ++ ['Z']) = some (nano, ['Z']) :=
    fraction_fractionText hnano (by simp [Numeral.Ends]; decide) (by decide)
  have hoffset : offset ['Z'] = some (0, []) := by rfl
  rw [Timestamp.read, htext]
  refine Option.bind_eq_some_iff.2 ⟨_, calendarYear_padded (by omega) _, ?_⟩
  refine Option.bind_eq_some_iff.2 ⟨_, mark_cons (by decide) _, ?_⟩
  refine Option.bind_eq_some_iff.2 ⟨_, number_padded (by decide) (by omega) _, ?_⟩
  refine Option.bind_eq_some_iff.2 ⟨_, mark_cons (by decide) _, ?_⟩
  refine Option.bind_eq_some_iff.2 ⟨_, number_padded (by decide) (by omega) _, ?_⟩
  refine Option.bind_eq_some_iff.2 ⟨_, rfl, ?_⟩
  refine Option.bind_eq_some_iff.2 ⟨_, number_padded (by decide) (by omega) _, ?_⟩
  refine Option.bind_eq_some_iff.2 ⟨_, mark_cons (by decide) _, ?_⟩
  refine Option.bind_eq_some_iff.2 ⟨_, number_padded (by decide) (by omega) _, ?_⟩
  refine Option.bind_eq_some_iff.2 ⟨_, mark_cons (by decide) _, ?_⟩
  refine Option.bind_eq_some_iff.2 ⟨_, number_padded (by decide) (by omega) _, ?_⟩
  refine Option.bind_eq_some_iff.2 ⟨_, hfraction, ?_⟩
  refine Option.bind_eq_some_iff.2 ⟨_, hoffset, ?_⟩
  dsimp only
  rw [hutc]
  exact if_pos ⟨rfl, hvalid, hcalendar, hcalendar⟩

end Timestamp
end DaemonDialogue
