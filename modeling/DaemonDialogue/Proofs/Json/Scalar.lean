import DaemonDialogue.Json.Reader
import DaemonDialogue.Json.Writer
import DaemonDialogue.Proofs.Text.Numeral
import Mathlib.Tactic

/-!
# Written strings and integers

A written string is read as the string whatever it holds, and a written integer within 64
bits as the integer, if what follows cannot belong to it.
-/

namespace DaemonDialogue.Json

open Numeral (isDigit_of_mem_toDigits le_ofDigitChars)

/-! ## Strings -/

theorem hexDigit?_digitChar : ∀ n < 16, Ascii.hexDigit? (Nat.digitChar n) = some n := by
  decide

theorem hex4?_control {n : Nat} (h : n < 0x20) :
    hex4? '0' '0' (Nat.digitChar (n / 16)) (Nat.digitChar (n % 16)) = some n := by
  have hzero : Ascii.hexDigit? '0' = some 0 := rfl
  rw [hex4?, hzero, hexDigit?_digitChar _ (by omega), hexDigit?_digitChar _ (by omega)]
  simp only [Option.bind_eq_bind, Option.bind_some, Option.pure_def, Option.some.injEq]
  omega

theorem readString_plain (fuel : Nat) (read : Option (List Char)) {c : Char} (rest : List Char)
    (hquote : c ≠ '"') (hescape : c ≠ '\\') (hcontrol : ¬c.toNat < 0x20) :
    readString (fuel + 1) read (c :: rest) = readString fuel (read.map (c :: ·)) rest := by
  rw [readString.eq_def]
  simp only
  split <;> simp_all

theorem readString_short (fuel : Nat) (read : Option (List Char)) {c e : Char} (rest : List Char)
    (hunicode : c ≠ 'u') (h : shortEscape? c = some e) :
    readString (fuel + 1) read ('\\' :: c :: rest) = readString fuel (read.map (e :: ·)) rest := by
  rw [readString, h]
  exact fun _ _ _ _ _ heq _ => hunicode heq

theorem readString_control (fuel : Nat) (read : Option (List Char)) {c : Char} (rest : List Char)
    (h : c.toNat < 0x20) :
    readString (fuel + 1) read ('\\' :: 'u' :: '0' :: '0' :: Nat.digitChar (c.toNat / 16) ::
      Nat.digitChar (c.toNat % 16) :: rest) = readString fuel (read.map (c :: ·)) rest := by
  have hpair : pairUp c.toNat rest = (some c, rest) := by
    have hhigh : isHighSurrogate c.toNat = false := by
      simp only [isHighSurrogate, Bool.and_eq_false_iff, decide_eq_false_iff_not]
      omega
    have hlow : isLowSurrogate c.toNat = false := by
      simp only [isLowSurrogate, Bool.and_eq_false_iff, decide_eq_false_iff_not]
      omega
    simp [pairUp, hhigh, hlow, Char.ofNat_toNat]
  rw [readString]
  simp only [hex4?_control h, hpair]

theorem readString_escape (fuel : Nat) (read : Option (List Char)) (c : Char) (rest : List Char) :
    readString (fuel + 1) read (escape c ++ rest) = readString fuel (read.map (c :: ·)) rest := by
  unfold escape
  split_ifs with h1 h2 h3 h4 h5 h6 h7 h8
  · obtain rfl := eq_of_beq h1
    exact readString_short fuel read rest (by decide) rfl
  · obtain rfl := eq_of_beq h2
    exact readString_short fuel read rest (by decide) rfl
  · obtain rfl := eq_of_beq h3
    exact readString_short fuel read rest (by decide) rfl
  · obtain rfl := eq_of_beq h4
    exact readString_short fuel read rest (by decide) rfl
  · obtain rfl := eq_of_beq h5
    exact readString_short fuel read rest (by decide) rfl
  · obtain rfl := eq_of_beq h6
    exact readString_short fuel read rest (by decide) rfl
  · obtain rfl := eq_of_beq h7
    exact readString_short fuel read rest (by decide) rfl
  · exact readString_control fuel read rest h8
  · exact readString_plain fuel read rest (by simpa using h1) (by simpa using h2) h8

theorem readString_escaped {fuel : Nat} (read text rest : List Char) (h : text.length < fuel) :
    readString fuel (some read) (text.flatMap escape ++ '"' :: rest) =
      some (some (String.ofList (read.reverse ++ text)), rest) := by
  induction text generalizing fuel read with
  | nil =>
    obtain ⟨fuel, rfl⟩ := Nat.exists_eq_add_one_of_ne_zero (Nat.ne_zero_of_lt h)
    simp [readString]
  | cons c text ih =>
    obtain ⟨fuel, rfl⟩ := Nat.exists_eq_add_one_of_ne_zero (Nat.ne_zero_of_lt h)
    rw [List.flatMap_cons, List.append_assoc, readString_escape, Option.map_some,
      ih (c :: read) (by simpa using h)]
    simp

/-! ## Integers -/

/-- Is a character none that a number can go on with? -/
def EndsNumber (c : Char) : Prop := Ascii.isDigit c = false ∧ c ≠ '.' ∧ c ≠ 'e' ∧ c ≠ 'E'

instance (c : Char) : Decidable (EndsNumber c) := inferInstanceAs (Decidable (_ ∧ _))

/-- What can follow a value: nothing that a number at its end could go on with. -/
def Ends (rest : List Char) : Prop := ∀ c ∈ rest.head?, EndsNumber c

theorem ends_cons {c : Char} (rest : List Char) (h : EndsNumber c) : Ends (c :: rest) := by
  rintro d hd
  obtain rfl : c = d := by simpa using hd
  exact h

theorem endsNumber_of_isSpace {c : Char} (h : isSpace c = true) : EndsNumber c := by
  simp only [isSpace, Bool.or_eq_true, beq_iff_eq] at h
  rcases h with ((rfl | rfl) | rfl) | rfl <;> decide

theorem Ends.notDigit {rest : List Char} (h : Ends rest) :
    ∀ c ∈ rest.head?, Ascii.isDigit c = false :=
  fun c hc => (h c hc).1

theorem Ends.readFraction {rest : List Char} (h : Ends rest) :
    readFraction rest = some ([], rest) := by
  cases rest with
  | nil => rfl
  | cons c rest =>
    obtain ⟨-, hpoint, -⟩ := h c rfl
    unfold Json.readFraction
    split
    · next heq => simp_all
    · rfl

theorem Ends.readExponent {rest : List Char} (h : Ends rest) :
    readExponent rest = some (none, rest) := by
  cases rest with
  | nil => rfl
  | cons c rest =>
    obtain ⟨-, -, hlower, hupper⟩ := h c rfl
    simp [Json.readExponent, hlower, hupper]

theorem head?_toDigits {n : Nat} (h : 0 < n) : (Nat.toDigits 10 n).head? ≠ some '0' := by
  induction n using Nat.strong_induction_on with
  | _ n ih =>
    by_cases hn : n < 10
    · rw [Nat.toDigits_of_lt_base hn, List.head?_cons]
      interval_cases n <;> decide
    · rw [Nat.toDigits_of_base_le (by decide) (Nat.le_of_not_lt hn),
        List.head?_append_of_ne_nil _ Nat.toDigits_ne_nil]
      exact ih (n / 10) (by omega) (by omega)

theorem readDigits_append {digits rest : List Char} (hne : digits ≠ [])
    (hdigits : ∀ c ∈ digits, Ascii.isDigit c = true)
    (hrest : ∀ c ∈ rest.head?, Ascii.isDigit c = false) :
    readDigits (digits ++ rest) = some (digits, rest) := by
  have htake : (digits ++ rest).takeWhile Ascii.isDigit = digits := by
    rw [List.takeWhile_append_of_pos hdigits]
    cases rest <;> simp_all
  have hdrop : (digits ++ rest).dropWhile Ascii.isDigit = rest := by
    rw [List.dropWhile_append_of_pos hdigits]
    cases rest <;> simp_all
  rw [readDigits, htake, hdrop]
  cases digits with
  | nil => exact absurd rfl hne
  | cons c digits => rfl

theorem readWhole_toDigits (n : Nat) {rest : List Char} (h : Ends rest) :
    readWhole (Nat.toDigits 10 n ++ rest) = some (Nat.toDigits 10 n, rest) := by
  rcases Nat.eq_zero_or_pos n with rfl | hn
  · have hany : rest.head?.any Ascii.isDigit = false := by
      rw [Option.any_eq_false]
      exact fun c hc => by simp [h.notDigit c hc]
    simp [readWhole, hany]
  · have hdigits := readDigits_append Nat.toDigits_ne_nil
      (fun c hc => isDigit_of_mem_toDigits (n := n) hc) h.notDigit
    have hhead := head?_toDigits hn
    cases hchars : Nat.toDigits 10 n with
    | nil => exact absurd hchars Nat.toDigits_ne_nil
    | cons c digits =>
      rw [hchars] at hdigits hhead
      rw [List.cons_append] at hdigits ⊢
      unfold readWhole
      split
      · next heq => simp_all
      · exact hdigits

theorem addWhole_eq (digits : List Char) {n : Nat}
    (h : Nat.ofDigitChars 10 digits n ≤ Scaled.maxDigits) :
    Scaled.addWhole ⟨n, 0⟩ digits = ⟨Nat.ofDigitChars 10 digits n, 0⟩ := by
  induction digits generalizing n with
  | nil => rfl
  | cons c digits ih =>
    rw [Nat.ofDigitChars_cons] at h ⊢
    have hstep : 10 * n + (c.toNat - '0'.toNat) ≤ Scaled.maxDigits :=
      (le_ofDigitChars digits _).trans h
    rw [Scaled.addWhole]
    simp only [Nat.mul_comm n 10]
    rw [if_pos (by simpa using hstep), ih h]

theorem readNumber_toDigits (negative : Bool) {n : Nat} {rest : List Char} (h : Ends rest)
    (hn : n ≤ Scaled.maxDigits) :
    readNumber negative (Nat.toDigits 10 n ++ rest) = some (wholeNumber negative ⟨n, 0⟩, rest) := by
  have hwhole : Scaled.addWhole {} (Nat.toDigits 10 n) = ⟨n, 0⟩ := by
    have hvalue : Nat.ofDigitChars 10 (Nat.toDigits 10 n) 0 = n := Nat.ofDigitChars_ten_toDigits
    have hfits := addWhole_eq (Nat.toDigits 10 n) (n := 0) (by rw [hvalue]; exact hn)
    rwa [hvalue] at hfits
  rw [readNumber, readWhole_toDigits n h]
  simp [h.readFraction, h.readExponent, hwhole]

/-- Is an integer exact in a text: signed or not, within 64 bits? -/
def Exact (i : Int) : Prop := -0x8000000000000000 ≤ i ∧ i ≤ 0xFFFFFFFFFFFFFFFF

theorem readScalar_digit (fuel : Nat) {c : Char} (rest : List Char)
    (h : Ascii.isDigit c = true) : readScalar fuel (c :: rest) = readNumber false (c :: rest) := by
  unfold readScalar
  split <;> simp_all [Ascii.isDigit]

theorem readScalar_integer (fuel : Nat) {i : Int} {rest : List Char} (h : Ends rest)
    (hi : Exact i) : readScalar fuel (integerChars i ++ rest) = some (.integer i, rest) := by
  obtain ⟨hlow, hhigh⟩ := hi
  cases i with
  | ofNat n =>
    rw [Int.ofNat_eq_natCast] at hhigh
    have hread := readNumber_toDigits false h (n := n) (by rw [Scaled.maxDigits]; omega)
    rw [integerChars]
    cases hchars : Nat.toDigits 10 n with
    | nil => exact absurd hchars Nat.toDigits_ne_nil
    | cons d digits =>
      have hd : Ascii.isDigit d = true := isDigit_of_mem_toDigits (n := n) (by simp [hchars])
      rw [hchars] at hread
      rw [List.cons_append, readScalar_digit fuel _ hd, ← List.cons_append, hread]
      simp [wholeNumber]
  | negSucc n =>
    have hn : n + 1 ≤ 0x8000000000000000 := by omega
    have hread := readNumber_toDigits true h (n := n + 1) (by rw [Scaled.maxDigits]; omega)
    rw [integerChars, List.cons_append, readScalar, hread]
    simp [wholeNumber, hn, Int.negSucc_eq]

theorem stringChars_append (text : String) (rest : List Char) :
    stringChars text ++ rest = '"' :: (text.toList.flatMap escape ++ '"' :: rest) := by
  simp [stringChars]

theorem readScalar_string {fuel : Nat} (text : String) (rest : List Char)
    (h : text.toList.length < fuel) :
    readScalar fuel (stringChars text ++ rest) = some (.string text, rest) := by
  rw [stringChars_append, readScalar, readString_escaped [] text.toList rest h]
  simp

theorem length_le_stringChars (text : String) :
    text.toList.length < (stringChars text).length := by
  have hescape : ∀ c, 1 ≤ (escape c).length := by
    intro c
    unfold escape
    split_ifs <;> simp
  have hflat : ∀ chars : List Char, chars.length ≤ (chars.flatMap escape).length := by
    intro chars
    induction chars with
    | nil => simp
    | cons c chars ih =>
      have := hescape c
      simp only [List.flatMap_cons, List.length_append, List.length_cons]
      omega
  have := hflat text.toList
  simp only [stringChars, List.cons_append, List.length_cons, List.length_append]
  omega

/-! ## Blanks -/

theorem skipSpace_append {gap : List Char} (h : ∀ c ∈ gap, isSpace c = true) (text : List Char) :
    skipSpace (gap ++ text) = skipSpace text :=
  List.dropWhile_append_of_pos h

theorem readName_string {fuel : Nat} {gap : List Char} (hgap : ∀ c ∈ gap, isSpace c = true)
    (name : String) (rest : List Char) (h : name.toList.length < fuel) :
    readName fuel (gap ++ (stringChars name ++ ':' :: rest)) = some (some name, rest) := by
  rw [readName, skipSpace_append hgap, stringChars_append]
  simp [skipSpace, isSpace, readString_escaped [] name.toList _ h]

end DaemonDialogue.Json
