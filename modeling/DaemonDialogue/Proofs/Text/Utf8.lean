import DaemonDialogue.Text.Utf8
import Mathlib.Tactic

/-!
# Texts as bytes and back

The bytes of a text are read as that text, one character at a time.
-/

namespace DaemonDialogue

/-- Are there no controls in a text? -/
def Visible (text : List Char) : Prop := ∀ c ∈ text, 0x20 ≤ c.toNat

instance : DecidablePred Visible := fun text =>
  List.decidableBAll (fun c : Char => 0x20 ≤ c.toNat) text

theorem Visible.append {text other : List Char} (h : Visible text) (hother : Visible other) :
    Visible (text ++ other) := by
  intro c hc
  rcases List.mem_append.1 hc with hc | hc
  · exact h c hc
  · exact hother c hc

theorem Visible.of_subset {text other : List Char} (h : Visible other) (hsub : text ⊆ other) :
    Visible text :=
  fun c hc => h c (hsub hc)

theorem Visible.cons {c : Char} {text : List Char} (hc : 0x20 ≤ c.toNat) (h : Visible text) :
    Visible (c :: text) := by
  have hsingle : Visible [c] := by simpa [Visible] using hc
  exact hsingle.append h

namespace Utf8

@[simp] theorem encodeChars_nil : encodeChars [] = [] := rfl

theorem encodeChars_cons (c : Char) (text : List Char) :
    encodeChars (c :: text) = String.utf8EncodeChar c ++ encodeChars text := List.flatMap_cons

theorem encodeChars_append (text other : List Char) :
    encodeChars (text ++ other) = encodeChars text ++ encodeChars other := List.flatMap_append

theorem encodeChars_eq_nil {text : List Char} : encodeChars text = [] ↔ text = [] := by
  cases text with
  | nil => simp
  | cons c text => simp [encodeChars_cons, String.utf8EncodeChar_ne_nil]

theorem ofLead?_ofNat {n : Nat} (h : n < 256) :
    Progress.ofLead? (UInt8.ofNat n) =
      if 0xC2 ≤ n ∧ n ≤ 0xDF then some (.inside (n - 0xC0) 1 0x80 0xBF)
      else if n = 0xE0 then some (.inside 0 2 0xA0 0xBF)
      else if n = 0xED then some (.inside 0xD 2 0x80 0x9F)
      else if 0xE1 ≤ n ∧ n ≤ 0xEF then some (.inside (n - 0xE0) 2 0x80 0xBF)
      else if n = 0xF0 then some (.inside 0 3 0x90 0xBF)
      else if 0xF1 ≤ n ∧ n ≤ 0xF3 then some (.inside (n - 0xF0) 3 0x80 0xBF)
      else if n = 0xF4 then some (.inside 4 3 0x80 0x8F)
      else none := by
  simp only [Progress.ofLead?, UInt8.le_iff_toNat_le, ← UInt8.toNat_inj, UInt8.toNat_ofNat',
    Nat.mod_eq_of_lt h]
  rfl

theorem strictOnto_ascii (read : List Char) (start length : Nat) {n : Nat} (rest : List UInt8)
    (h : n < 0x80) : strictOnto read start length .boundary (UInt8.ofNat n :: rest) =
      strictOnto (Char.ofNat n :: read) (start + 1) 0 .boundary rest := by
  have hbyte : UInt8.ofNat n < 0x80 := by
    simp only [UInt8.lt_iff_toNat_lt, UInt8.toNat_ofNat', Nat.mod_eq_of_lt (show n < 256 by omega)]
    exact h
  rw [strictOnto, if_pos hbyte, UInt8.toNat_ofNat', Nat.mod_eq_of_lt (show n < 2 ^ 8 by omega)]

theorem strictOnto_lead (read : List Char) (start length : Nat) {n : Nat} {p : Progress}
    (rest : List UInt8) (hlow : 0x80 ≤ n) (hhigh : n < 256)
    (hlead : Progress.ofLead? (UInt8.ofNat n) = some p) :
    strictOnto read start length .boundary (UInt8.ofNat n :: rest) =
      strictOnto read start 1 p rest := by
  have hbyte : ¬UInt8.ofNat n < 0x80 := by
    simp only [UInt8.lt_iff_toNat_lt, UInt8.toNat_ofNat', Nat.mod_eq_of_lt hhigh]
    exact Nat.not_lt.2 hlow
  rw [strictOnto, if_neg hbyte, hlead]

theorem strictOnto_inside (read : List Char) (start length value owed : Nat) {low high : UInt8}
    {n : Nat} (rest : List UInt8) (hn : n < 64) (hlow : low.toNat ≤ n + 0x80)
    (hhigh : n + 0x80 ≤ high.toNat) :
    strictOnto read start length (.inside value owed low high) (UInt8.ofNat (n + 0x80) :: rest) =
      if owed ≤ 1 then
        strictOnto (Char.ofNat (value * 64 + n) :: read) (start + length + 1) 0 .boundary rest
      else strictOnto read start (length + 1) (.inside (value * 64 + n) (owed - 1) 0x80 0xBF)
        rest := by
  have hbyte : (UInt8.ofNat (n + 0x80)).toNat = n + 0x80 := by
    rw [UInt8.toNat_ofNat', Nat.mod_eq_of_lt (by omega)]
  have hrange : low ≤ UInt8.ofNat (n + 0x80) ∧ UInt8.ofNat (n + 0x80) ≤ high := by
    rw [UInt8.le_iff_toNat_le, UInt8.le_iff_toNat_le, hbyte]
    exact ⟨hlow, hhigh⟩
  rw [strictOnto, if_pos hrange, hbyte, Nat.add_sub_cancel]

/-- The lead of a character of three bytes and the range of its second byte. -/
theorem ofLead?_three {n : Nat} (hlow : 0x800 ≤ n) (hhigh : n < 0x10000)
    (hvalid : n < 0xD800 ∨ 0xDFFF < n) :
    ∃ low high, Progress.ofLead? (UInt8.ofNat (n / 4096 % 0x10 + 0xe0)) =
        some (.inside (n / 4096) 2 low high) ∧
      low.toNat ≤ n / 64 % 0x40 + 0x80 ∧ n / 64 % 0x40 + 0x80 ≤ high.toNat := by
  rw [ofLead?_ofNat (by omega), if_neg (by omega)]
  by_cases hfirst : n / 4096 = 0
  · rw [if_pos (by omega), hfirst]
    exact ⟨0xA0, 0xBF, rfl, by simp; omega, by simp; omega⟩
  · rw [if_neg (by omega)]
    by_cases hlast : n / 4096 = 0xD
    · rw [if_pos (by omega), hlast]
      exact ⟨0x80, 0x9F, rfl, by simp, by simp; omega⟩
    · have hvalue : n / 4096 % 0x10 + 0xe0 - 0xE0 = n / 4096 := by omega
      rw [if_neg (by omega), if_pos (by omega), hvalue]
      exact ⟨0x80, 0xBF, rfl, by simp, by simp; omega⟩

/-- The lead of a character of four bytes and the range of its second byte. -/
theorem ofLead?_four {n : Nat} (hlow : 0x10000 ≤ n) (hhigh : n < 0x110000) :
    ∃ low high, Progress.ofLead? (UInt8.ofNat (n / 262144 % 0x08 + 0xf0)) =
        some (.inside (n / 262144) 3 low high) ∧
      low.toNat ≤ n / 4096 % 0x40 + 0x80 ∧ n / 4096 % 0x40 + 0x80 ≤ high.toNat := by
  rw [ofLead?_ofNat (by omega), if_neg (by omega), if_neg (by omega), if_neg (by omega),
    if_neg (by omega)]
  by_cases hfirst : n / 262144 = 0
  · rw [if_pos (by omega), hfirst]
    exact ⟨0x90, 0xBF, rfl, by simp; omega, by simp; omega⟩
  · rw [if_neg (by omega)]
    by_cases hlast : n / 262144 = 4
    · rw [if_neg (by omega), if_pos (by omega), hlast]
      exact ⟨0x80, 0x8F, rfl, by simp, by simp; omega⟩
    · have hvalue : n / 262144 % 0x08 + 0xf0 - 0xF0 = n / 262144 := by omega
      rw [if_pos (by omega), hvalue]
      exact ⟨0x80, 0xBF, rfl, by simp, by simp; omega⟩

theorem strictOnto_char (read : List Char) (start : Nat) (c : Char) (rest : List UInt8) :
    ∃ next, strictOnto read start 0 .boundary (String.utf8EncodeChar c ++ rest) =
      strictOnto (c :: read) next 0 .boundary rest := by
  have hvalid : c.val.toNat < 0xD800 ∨ 0xDFFF < c.val.toNat ∧ c.val.toNat < 0x110000 := c.valid
  have hself : Char.ofNat c.val.toNat = c := Char.ofNat_toNat c
  unfold String.utf8EncodeChar
  generalize c.val.toNat = n at hvalid hself ⊢
  subst hself
  dsimp only
  split_ifs with h1 h2 h3
  · exact ⟨_, strictOnto_ascii read start 0 rest (Nat.lt_succ_of_le h1)⟩
  · have hlead : Progress.ofLead? (UInt8.ofNat (n / 64 % 0x20 + 0xc0)) =
        some (.inside (n / 64) 1 0x80 0xBF) := by
      have hvalue : n / 64 % 0x20 + 0xc0 - 0xC0 = n / 64 := by omega
      rw [ofLead?_ofNat (by omega), if_pos (by omega), hvalue]
    rw [List.cons_append, List.singleton_append,
      strictOnto_lead read start 0 _ (by omega) (by omega) hlead,
      strictOnto_inside _ _ _ _ _ rest (by omega) (by simp) (by simp; omega), if_pos le_rfl,
      Nat.div_add_mod']
    exact ⟨_, rfl⟩
  · obtain ⟨low, high, hlead, hmin, hmax⟩ := ofLead?_three (n := n) (by omega) (by omega) (by omega)
    have hvalue : (n / 4096 * 64 + n / 64 % 0x40) * 64 + n % 0x40 = n := by omega
    rw [List.cons_append, List.cons_append, List.singleton_append,
      strictOnto_lead read start 0 _ (by omega) (by omega) hlead,
      strictOnto_inside _ _ _ _ _ _ (by omega) hmin hmax, if_neg (by omega),
      strictOnto_inside _ _ _ _ _ rest (by omega) (by simp) (by simp; omega), if_pos (by omega),
      hvalue]
    exact ⟨_, rfl⟩
  · obtain ⟨low, high, hlead, hmin, hmax⟩ := ofLead?_four (n := n) (by omega) (by omega)
    have hvalue : ((n / 262144 * 64 + n / 4096 % 0x40) * 64 + n / 64 % 0x40) * 64 + n % 0x40 =
        n := by
      omega
    rw [List.cons_append, List.cons_append, List.cons_append, List.singleton_append,
      strictOnto_lead read start 0 _ (by omega) (by omega) hlead,
      strictOnto_inside _ _ _ _ _ _ (by omega) hmin hmax, if_neg (by omega),
      strictOnto_inside _ _ _ _ _ _ (by omega) (by simp) (by simp; omega), if_neg (by omega),
      strictOnto_inside _ _ _ _ _ rest (by omega) (by simp) (by simp; omega), if_pos (by omega),
      hvalue]
    exact ⟨_, rfl⟩

theorem strictOnto_encodeChars (read : List Char) (start : Nat) (text : List Char) :
    strictOnto read start 0 .boundary (encodeChars text) = .ok (read.reverse ++ text) := by
  induction text generalizing read start with
  | nil => simp [encodeChars, strictOnto]
  | cons c text ih =>
    obtain ⟨next, hchar⟩ := strictOnto_char read start c (encodeChars text)
    rw [encodeChars_cons, hchar, ih]
    simp

theorem strictDecode_encodeChars (text : List Char) :
    strictDecode (encodeChars text) = .ok (String.ofList text) := by
  rw [strictDecode, strictOnto_encodeChars]
  rfl

/-- Every text is read back from its bytes. -/
theorem strictDecode_encode (text : String) : strictDecode (encode text) = .ok text := by
  rw [encode, strictDecode_encodeChars, String.ofList_toList]

theorem encode_injective {text other : String} (h : encode text = encode other) : text = other := by
  have hread := strictDecode_encode text
  rw [h, strictDecode_encode] at hread
  exact (Except.ok.inj hread).symm

theorem encode_eq_nil_iff {text : String} : encode text = [] ↔ text = "" := by
  constructor
  · intro hnil
    have hdecode := strictDecode_encode text
    rw [hnil] at hdecode
    exact (Except.ok.inj hdecode).symm
  · rintro rfl
    rfl

@[simp] theorem encode_append (text other : String) :
    encode (text ++ other) = encode text ++ encode other := by
  simp [encode, encodeChars_append]

/-! ## Bytes of characters -/

theorem utf8EncodeChar_cases (c : Char) :
    (c.toNat < 0x80 ∧ String.utf8EncodeChar c = [UInt8.ofNat c.toNat] ∧ c.utf8Size = 1) ∨
      ∀ b ∈ String.utf8EncodeChar c, 0x80 ≤ b.toNat := by
  by_cases hc : c.toNat < 0x80
  · have hbytes : String.utf8EncodeChar c = [UInt8.ofNat c.toNat] := by
      unfold String.utf8EncodeChar
      exact if_pos (Nat.le_of_lt_succ hc)
    refine .inl ⟨hc, hbytes, ?_⟩
    rw [← String.length_utf8EncodeChar, hbytes]
    rfl
  · refine .inr fun b hb => ?_
    change ¬c.val.toNat < 0x80 at hc
    unfold String.utf8EncodeChar at hb
    generalize c.val.toNat = n at hc hb
    dsimp only at hb
    have hall : ∀ k, 0x80 ≤ k → k < 256 → 0x80 ≤ (UInt8.ofNat k).toNat := by
      intro k hlow hhigh
      rwa [UInt8.toNat_ofNat', Nat.mod_eq_of_lt hhigh]
    split_ifs at hb with h1 h2 h3 <;> simp only [List.mem_cons, List.not_mem_nil, or_false] at hb
    · exact absurd (Nat.lt_succ_of_le h1) hc
    · rcases hb with rfl | rfl <;> exact hall _ (by omega) (by omega)
    · rcases hb with rfl | rfl | rfl <;> exact hall _ (by omega) (by omega)
    · rcases hb with rfl | rfl | rfl | rfl <;> exact hall _ (by omega) (by omega)

/-- A byte of the first half of all bytes is all of its character. -/
theorem toNat_of_mem_utf8EncodeChar {c : Char} {b : UInt8} (hb : b ∈ String.utf8EncodeChar c)
    (hlow : b.toNat < 0x80) : c.toNat = b.toNat := by
  rcases utf8EncodeChar_cases c with ⟨hc, hbytes, -⟩ | hhigh
  · rw [hbytes, List.mem_singleton] at hb
    rw [hb, UInt8.toNat_ofNat', Nat.mod_eq_of_lt (by omega)]
  · exact absurd hlow (not_lt.2 (hhigh b hb))

/-- A byte of the first half of all bytes is a character of the text. -/
theorem exists_of_mem_encodeChars {text : List Char} {b : UInt8} (hb : b ∈ encodeChars text)
    (hlow : b.toNat < 0x80) : ∃ c ∈ text, c.toNat = b.toNat := by
  obtain ⟨c, hc, hmem⟩ := List.mem_flatMap.1 hb
  exact ⟨c, hc, toNat_of_mem_utf8EncodeChar hmem hlow⟩

theorem head?_of_encodeChars {text : List Char} {b : UInt8} {c : Char} (hlow : b.toNat < 0x80)
    (hc : c.toNat = b.toNat) (h : (encodeChars text).head? = some b) : text.head? = some c := by
  cases text with
  | nil => cases h
  | cons d text =>
    rw [encodeChars_cons, List.head?_append_of_ne_nil _ String.utf8EncodeChar_ne_nil] at h
    have hd := toNat_of_mem_utf8EncodeChar (List.mem_of_mem_head? h) hlow
    rw [List.head?_cons, Char.toNat_inj.1 (hd.trans hc.symm)]

theorem le_of_mem_encodeChars {text : List Char} (h : Visible text) :
    ∀ b ∈ encodeChars text, 0x20 ≤ b.toNat := by
  intro b hb
  by_contra hcontrol
  obtain ⟨c, hc, hvalue⟩ := exists_of_mem_encodeChars hb (by omega)
  have hvisible : 0x20 ≤ c.toNat := h c hc
  omega

/-! ## Characters of one byte -/

/-- Does every character of a text take one byte? -/
def Narrow (text : List Char) : Prop := ∀ c ∈ text, c.toNat < 0x80

instance : DecidablePred Narrow := fun text =>
  List.decidableBAll (fun c : Char => c.toNat < 0x80) text

theorem Narrow.of_subset {text other : List Char} (h : Narrow other) (hsub : text ⊆ other) :
    Narrow text :=
  fun c hc => h c (hsub hc)

theorem encodeChars_narrow {text : List Char} (h : Narrow text) :
    encodeChars text = text.map fun c => UInt8.ofNat c.toNat := by
  induction text with
  | nil => rfl
  | cons c text ih =>
    obtain ⟨hc, htext⟩ := List.forall_mem_cons.1 h
    have hchar : String.utf8EncodeChar c = [UInt8.ofNat c.toNat] := by
      unfold String.utf8EncodeChar
      exact if_pos (Nat.le_of_lt_succ hc)
    rw [encodeChars_cons, hchar, ih htext]
    rfl

theorem strictDecode_take {text : List Char} (h : Narrow text) (n : Nat) :
    strictDecode ((encodeChars text).take n) = .ok (String.ofList (text.take n)) := by
  have hleft : Narrow (text.take n) := h.of_subset (List.take_subset n text)
  rw [encodeChars_narrow h, ← List.map_take, ← encodeChars_narrow hleft,
    strictDecode_encodeChars]

theorem strictDecode_drop {text : List Char} (h : Narrow text) (n : Nat) :
    strictDecode ((encodeChars text).drop n) = .ok (String.ofList (text.drop n)) := by
  have hright : Narrow (text.drop n) := h.of_subset (List.drop_subset n text)
  rw [encodeChars_narrow h, ← List.map_drop, ← encodeChars_narrow hright,
    strictDecode_encodeChars]

end Utf8
end DaemonDialogue
