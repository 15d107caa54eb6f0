import DaemonDialogue.Proofs.Text.Utf8

/-!
# Bytes as text

While a character is open, its value is known up to a range. Every value of the range is that
of a character beyond ASCII whose bytes begin with those read so far. So a byte of ASCII always
stands for itself, a stream can be cut at it, and what is read strictly has the bytes it was
read from.
-/

namespace DaemonDialogue.Utf8

/-- The values that an open character can still get, from the first on and below the second. -/
def Progress.range (value owed : Nat) (low high : UInt8) : Nat × Nat :=
  ((value * 64 + (low.toNat - 0x80)) * 64 ^ (owed - 1),
    (value * 64 + (high.toNat - 0x80) + 1) * 64 ^ (owed - 1))

/-- An open character: the next byte continues it, and every value that it can still get is
that of a character beyond ASCII. -/
structure Progress.Open (value owed : Nat) (low high : UInt8) : Prop where
  low_ge : 0x80 ≤ low.toNat
  high_le : high.toNat ≤ 0xBF
  owed_pos : 0 < owed
  valid : ∀ v, (range value owed low high).1 ≤ v → v < (range value owed low high).2 →
    0x80 ≤ v ∧ v.isValidChar

def Progress.Sound : Progress → Prop
  | .boundary => True
  | .inside value owed low high => Open value owed low high

theorem sound_of_ofLead? {b : UInt8} {p : Progress} (h : Progress.ofLead? b = some p) :
    p.Sound := by
  rw [← UInt8.ofNat_toNat (x := b), ofLead?_ofNat b.toNat_lt] at h
  split_ifs at h with h1 h2 h3 h4 h5 h6 h7
  all_goals
    cases h
    refine ⟨by decide, by decide, by decide, fun v hfrom hto => ?_⟩
    simp only [Progress.range, UInt8.reduceToNat] at hfrom hto
    simp only [Nat.isValidChar]
    omega

theorem step_inside (value owed : Nat) (low high b : UInt8) :
    step (.inside value owed low high) b =
      if low ≤ b ∧ b ≤ high then
        if owed ≤ 1 then ([Char.ofNat (value * 64 + (b.toNat - 0x80))], .boundary)
        else ([], .inside (value * 64 + (b.toNat - 0x80)) (owed - 1) 0x80 0xBF)
      else (replacement :: (lead b).1, (lead b).2) := rfl

/-- A byte within its range leaves only values that were possible before. -/
theorem range_step (value : Nat) {owed : Nat} {low high b : UInt8} (howed : 1 < owed)
    (hlow : low ≤ b) (hhigh : b ≤ high) :
    (Progress.range value owed low high).1 ≤
        (Progress.range (value * 64 + (b.toNat - 0x80)) (owed - 1) 0x80 0xBF).1 ∧
      (Progress.range (value * 64 + (b.toNat - 0x80)) (owed - 1) 0x80 0xBF).2 ≤
        (Progress.range value owed low high).2 := by
  rw [UInt8.le_iff_toNat_le] at hlow hhigh
  obtain ⟨rest, rfl⟩ : ∃ rest, owed = rest + 2 := ⟨owed - 2, by omega⟩
  have hpow : 64 ^ (rest + 1) = 64 * 64 ^ rest := Nat.pow_succ'
  simp only [Progress.range, Nat.add_sub_cancel, Nat.reduceSubDiff, hpow, ← Nat.mul_assoc]
  refine ⟨Nat.mul_le_mul_right _ ?_, Nat.mul_le_mul_right _ ?_⟩
  · simp only [UInt8.reduceToNat]
    omega
  · simp only [UInt8.reduceToNat]
    omega

theorem Progress.Open.step {value owed : Nat} {low high b : UInt8} (h : Open value owed low high)
    (howed : 1 < owed) (hlow : low ≤ b) (hhigh : b ≤ high) :
    Open (value * 64 + (b.toNat - 0x80)) (owed - 1) 0x80 0xBF := by
  obtain ⟨hfirst, hend⟩ := range_step value howed hlow hhigh
  exact ⟨by decide, by decide, by omega, fun v hfrom hto =>
    h.valid v (hfirst.trans hfrom) (hto.trans_le hend)⟩

theorem Progress.Sound.lead (b : UInt8) : (lead b).2.Sound := by
  unfold Utf8.lead
  split_ifs
  · trivial
  · split
    · next p hp => exact sound_of_ofLead? hp
    · trivial

theorem Progress.Sound.step {p : Progress} (h : p.Sound) (b : UInt8) : (step p b).2.Sound := by
  cases p with
  | boundary => exact Sound.lead b
  | inside value owed low high =>
    rw [step_inside]
    split_ifs with hrange hlast
    · trivial
    · exact Open.step h (Nat.lt_of_not_le hlast) hrange.1 hrange.2
    · exact Sound.lead b

/-! ## Bytes of ASCII -/

/-- What some bytes complete, and where they leave the reader. -/
def run : Progress → List UInt8 → List Char × Progress
  | p, [] => ([], p)
  | p, b :: rest =>
    let (out, q) := step p b
    let (more, r) := run q rest
    (out ++ more, r)

theorem decodeOnto_eq (read : List Char) (p : Progress) (bytes : List UInt8) :
    decodeOnto read p bytes = read.reverse ++ (run p bytes).1 ++ flush (run p bytes).2 := by
  induction bytes generalizing read p with
  | nil => simp [decodeOnto, run, List.reverseAux_eq]
  | cons b rest ih =>
    change decodeOnto ((step p b).1.reverseAux read) (step p b).2 rest = _
    rw [ih]
    simp [run, List.reverseAux_eq]

theorem decodeChars_eq (bytes : List UInt8) :
    decodeChars bytes = (run .boundary bytes).1 ++ flush (run .boundary bytes).2 := by
  simp [decodeChars, decodeOnto_eq]

theorem run_append (p : Progress) (before after : List UInt8) :
    run p (before ++ after) =
      ((run p before).1 ++ (run (run p before).2 after).1, (run (run p before).2 after).2) := by
  induction before generalizing p with
  | nil => rfl
  | cons b rest ih => simp [run, ih]

theorem Progress.Sound.run {p : Progress} (h : p.Sound) (bytes : List UInt8) :
    (run p bytes).2.Sound := by
  induction bytes generalizing p with
  | nil => exact h
  | cons b rest ih => exact ih (h.step b)

theorem lead_ascii {b : UInt8} (h : b.toNat < 0x80) :
    lead b = ([Char.ofNat b.toNat], .boundary) := by
  have hb : b < 0x80 := UInt8.lt_iff_toNat_lt.2 h
  rw [lead, if_pos hb]

/-- A byte of ASCII closes what is open and is read as itself. -/
theorem step_ascii {p : Progress} {b : UInt8} (hp : p.Sound) (h : b.toNat < 0x80) :
    step p b = (flush p ++ [Char.ofNat b.toNat], .boundary) := by
  cases p with
  | boundary => exact lead_ascii h
  | inside value owed low high =>
    have hlow := Progress.Open.low_ge hp
    have hout : ¬(low ≤ b ∧ b ≤ high) := by
      rw [UInt8.le_iff_toNat_le]
      omega
    rw [step_inside, if_neg hout, lead_ascii h]
    rfl

/-- A stream can be read in two parts wherever a byte of ASCII is. -/
theorem decodeChars_append_ascii (before : List UInt8) {b : UInt8} (after : List UInt8)
    (h : b.toNat < 0x80) :
    decodeChars (before ++ b :: after) =
      decodeChars before ++ Char.ofNat b.toNat :: decodeChars after := by
  have hsound : (run .boundary before).2.Sound := Progress.Sound.run (p := .boundary) trivial before
  simp [decodeChars_eq, run_append, run, step_ascii hsound h]

theorem toNat_ofNat_of_isValidChar {v : Nat} (h : v.isValidChar) : (Char.ofNat v).toNat = v := by
  rw [Char.ofNat, dif_pos h]
  rfl

theorem mem_lead {b : UInt8} {c : Char} (h : c ∈ (lead b).1) (hc : c.toNat < 0x80) :
    b.toNat = c.toNat := by
  unfold lead at h
  split_ifs at h with hb
  · obtain rfl : c = Char.ofNat b.toNat := by simpa using h
    exact (toNat_ofNat_of_isValidChar (.inl (b.toNat_lt.trans (by decide)))).symm
  · split at h
    · simp at h
    · obtain rfl := List.mem_singleton.1 h
      exact absurd hc (by decide)

theorem Progress.Sound.mem_step {p : Progress} {b : UInt8} {c : Char} (hp : p.Sound)
    (h : c ∈ (Utf8.step p b).1) (hc : c.toNat < 0x80) : b.toNat = c.toNat := by
  cases p with
  | boundary => exact mem_lead h hc
  | inside value owed low high =>
    obtain ⟨hlow, hhigh, howed, hvalid⟩ := hp
    rw [step_inside] at h
    split_ifs at h with hrange hlast
    · have hread : c = Char.ofNat (value * 64 + (b.toNat - 0x80)) := by
        simpa only [List.mem_singleton] using h
      obtain rfl : owed = 1 := by omega
      rw [UInt8.le_iff_toNat_le, UInt8.le_iff_toNat_le] at hrange
      have hv := hvalid (value * 64 + (b.toNat - 0x80)) (by simp [range]; omega)
        (by simp [range]; omega)
      rw [hread, toNat_ofNat_of_isValidChar hv.2] at hc
      omega
    · simp at h
    · rcases List.mem_cons.1 h with rfl | h
      · exact absurd hc (by decide)
      · exact mem_lead h hc

theorem Progress.Sound.mem_run {p : Progress} {bytes : List UInt8} {c : Char} (hp : p.Sound)
    (h : c ∈ (Utf8.run p bytes).1) (hc : c.toNat < 0x80) : ∃ b ∈ bytes, b.toNat = c.toNat := by
  induction bytes generalizing p with
  | nil => simp [Utf8.run] at h
  | cons b rest ih =>
    rcases List.mem_append.1 h with h | h
    · exact ⟨b, List.mem_cons_self, hp.mem_step h hc⟩
    · obtain ⟨d, hd, hdc⟩ := ih (hp.step b) h
      exact ⟨d, List.mem_cons_of_mem _ hd, hdc⟩

theorem exists_of_mem_decodeChars {bytes : List UInt8} {c : Char} (h : c ∈ decodeChars bytes)
    (hc : c.toNat < 0x80) : ∃ b ∈ bytes, b.toNat = c.toNat := by
  rw [decodeChars_eq] at h
  rcases List.mem_append.1 h with h | h
  · exact Progress.Sound.mem_run (p := .boundary) trivial h hc
  · cases hend : (run .boundary bytes).2 with
    | boundary => simp [hend, flush] at h
    | inside value owed low high =>
      obtain rfl : c = replacement := by simpa [hend, flush] using h
      exact absurd hc (by decide)

/-! ## Strict reading -/

theorem utf8EncodeChar_ofNat {v : Nat} (h : v.isValidChar) :
    String.utf8EncodeChar (Char.ofNat v) =
      if v ≤ 0x7F then [UInt8.ofNat v]
      else if v ≤ 0x7FF then [UInt8.ofNat (v / 64 % 0x20 + 0xC0), UInt8.ofNat (v % 64 + 0x80)]
      else if v ≤ 0xFFFF then
        [UInt8.ofNat (v / 4096 % 0x10 + 0xE0), UInt8.ofNat (v / 64 % 64 + 0x80),
          UInt8.ofNat (v % 64 + 0x80)]
      else
        [UInt8.ofNat (v / 262144 % 8 + 0xF0), UInt8.ofNat (v / 4096 % 64 + 0x80),
          UInt8.ofNat (v / 64 % 64 + 0x80), UInt8.ofNat (v % 64 + 0x80)] := by
  have hv : (Char.ofNat v).val.toNat = v := toNat_ofNat_of_isValidChar h
  rw [String.utf8EncodeChar, hv]

/-- A byte of the first half of all bytes is a character. -/
theorem utf8EncodeChar_ascii {b : UInt8} (h : b.toNat < 0x80) :
    String.utf8EncodeChar (Char.ofNat b.toNat) = [b] := by
  rw [utf8EncodeChar_ofNat (.inl (by omega)), if_pos (Nat.le_of_lt_succ h), UInt8.ofNat_toNat]

theorem getElem?_utf8EncodeChar {v k : Nat} (h : v.isValidChar)
    (hk : k + 1 < (String.utf8EncodeChar (Char.ofNat v)).length) :
    (String.utf8EncodeChar (Char.ofNat v))[(String.utf8EncodeChar (Char.ofNat v)).length - (k + 1)]?
      = some (UInt8.ofNat (v / 64 ^ k % 64 + 0x80)) := by
  rw [utf8EncodeChar_ofNat h] at hk ⊢
  split_ifs at hk ⊢
  · simp at hk
  · obtain rfl : k = 0 := by simpa using hk
    simp
  · have hk : k = 0 ∨ k = 1 := by simp at hk; omega
    rcases hk with rfl | rfl <;> simp
  · have hk : k = 0 ∨ k = 1 ∨ k = 2 := by simp at hk; omega
    rcases hk with rfl | rfl | rfl <;> simp

/-- Does a character begin with some bytes, and has it so many more? -/
def BeginsWith (begun : List UInt8) (owed v : Nat) : Prop :=
  begun <+: String.utf8EncodeChar (Char.ofNat v) ∧
    (String.utf8EncodeChar (Char.ofNat v)).length = begun.length + owed

/-- Does every value that an open character can still get begin with the bytes read so far? -/
def Progress.Begun (begun : List UInt8) : Progress → Prop
  | .boundary => begun = []
  | .inside value owed low high =>
    begun ≠ [] ∧ ∀ v, (range value owed low high).1 ≤ v → v < (range value owed low high).2 →
      BeginsWith begun owed v

theorem begun_of_ofLead? {b : UInt8} {p : Progress} (h : Progress.ofLead? b = some p) :
    p.Begun [b] := by
  have hp := sound_of_ofLead? h
  rw [← UInt8.ofNat_toNat (x := b), ofLead?_ofNat b.toNat_lt] at h
  split_ifs at h with h1 h2 h3 h4 h5 h6 h7
  all_goals
    cases h
    refine ⟨by simp, fun v hfrom hto => ?_⟩
    have hv := hp.valid v hfrom hto
    rw [BeginsWith, utf8EncodeChar_ofNat hv.2]
    simp only [Progress.range, UInt8.reduceToNat] at hfrom hto
    split_ifs <;> simp [← UInt8.toNat_inj] <;> omega

theorem BeginsWith.concat {begun : List UInt8} {value owed v : Nat} {b : UInt8}
    (h : BeginsWith begun owed v) (hbegun : begun ≠ []) (howed : 0 < owed) (hv : v.isValidChar)
    (hlow : 0x80 ≤ b.toNat) (hhigh : b.toNat ≤ 0xBF)
    (hvalue : v / 64 ^ (owed - 1) = value * 64 + (b.toNat - 0x80)) :
    BeginsWith (begun ++ [b]) (owed - 1) v := by
  obtain ⟨⟨tail, htail⟩, hlength⟩ := h
  have hpos := List.length_pos_iff.2 hbegun
  have hbyte := getElem?_utf8EncodeChar (k := owed - 1) hv (by omega)
  have hplace : (String.utf8EncodeChar (Char.ofNat v)).length - (owed - 1 + 1) = begun.length := by
    omega
  have hb : UInt8.ofNat ((value * 64 + (b.toNat - 0x80)) % 64 + 0x80) = b := by
    have hmod : (value * 64 + (b.toNat - 0x80)) % 64 + 0x80 = b.toNat := by omega
    rw [hmod, UInt8.ofNat_toNat]
  rw [hplace, hvalue, hb, ← htail, List.getElem?_append_right le_rfl, Nat.sub_self] at hbyte
  refine ⟨?_, by rw [hlength, List.length_append, List.length_singleton]; omega⟩
  cases tail with
  | nil => simp at hbyte
  | cons c tail =>
    obtain rfl : c = b := by simpa using hbyte
    exact ⟨tail, by rw [← htail]; simp⟩

/-- The characters that begin with a further byte are among those that were possible. -/
theorem Progress.Open.concat {value owed v : Nat} {low high b : UInt8} {begun : List UInt8}
    (h : Open value owed low high) (hbegun : Begun begun (.inside value owed low high))
    (hlow : low ≤ b) (hhigh : b ≤ high)
    (hvalue : v / 64 ^ (owed - 1) = value * 64 + (b.toNat - 0x80)) :
    v.isValidChar ∧ BeginsWith (begun ++ [b]) (owed - 1) v := by
  rw [UInt8.le_iff_toNat_le] at hlow hhigh
  have hlow' := h.low_ge
  have hhigh' := h.high_le
  have hpos : 0 < 64 ^ (owed - 1) := Nat.pow_pos (by decide)
  have hfrom : (range value owed low high).1 ≤ v := by
    rw [range, ← Nat.le_div_iff_mul_le hpos, hvalue]
    omega
  have hto : v < (range value owed low high).2 := by
    rw [range, ← Nat.div_lt_iff_lt_mul hpos, hvalue]
    omega
  have hvalid := (h.valid v hfrom hto).2
  exact ⟨hvalid, (hbegun.2 v hfrom hto).concat hbegun.1 h.owed_pos hvalid (by omega) (by omega)
    hvalue⟩

theorem div_of_mem_range {value rest v : Nat}
    (hfrom : (Progress.range value (rest + 1) 0x80 0xBF).1 ≤ v)
    (hto : v < (Progress.range value (rest + 1) 0x80 0xBF).2) : v / 64 ^ (rest + 1) = value := by
  have hpow : 64 ^ (rest + 1) = 64 * 64 ^ rest := Nat.pow_succ'
  have hfirst : (Progress.range value (rest + 1) 0x80 0xBF).1 = value * 64 ^ (rest + 1) := by
    simp [Progress.range, hpow, Nat.mul_assoc]
  have hend : (Progress.range value (rest + 1) 0x80 0xBF).2 = (value + 1) * 64 ^ (rest + 1) := by
    simp only [Progress.range, hpow, UInt8.reduceToNat, Nat.reduceSub, Nat.add_sub_cancel]
    ring
  exact Nat.div_eq_of_lt_le (hfirst ▸ hfrom) (hend ▸ hto)

theorem Progress.Open.begun_step {value owed : Nat} {low high b : UInt8} {begun : List UInt8}
    (h : Open value owed low high) (hbegun : Begun begun (.inside value owed low high))
    (howed : 1 < owed) (hlow : low ≤ b) (hhigh : b ≤ high) :
    Begun (begun ++ [b]) (.inside (value * 64 + (b.toNat - 0x80)) (owed - 1) 0x80 0xBF) := by
  refine ⟨by simp, fun v hfrom hto => (h.concat hbegun hlow hhigh ?_).2⟩
  obtain ⟨rest, rfl⟩ : ∃ rest, owed = rest + 2 := ⟨owed - 2, by omega⟩
  exact div_of_mem_range hfrom hto

/-- What is read strictly has the bytes it was read from: those of the character that is open
and those that follow. -/
theorem strictOnto_sound {read : List Char} {start length : Nat} {p : Progress}
    {bytes begun : List UInt8} {text : List Char} (hp : p.Sound) (hbegun : p.Begun begun)
    (h : strictOnto read start length p bytes = .ok text) :
    ∃ more, text = read.reverse ++ more ∧ encodeChars more = begun ++ bytes := by
  fun_induction strictOnto read start length p bytes generalizing begun with
  | case1 read =>
    obtain rfl : begun = [] := hbegun
    exact ⟨[], by simpa using h.symm, rfl⟩
  | case2 => simp at h
  | case3 read start length b rest hb ih =>
    obtain ⟨more, rfl, hmore⟩ := ih trivial hbegun h
    obtain rfl : begun = [] := hbegun
    have hchar := utf8EncodeChar_ascii (UInt8.lt_iff_toNat_lt.1 hb)
    refine ⟨Char.ofNat b.toNat :: more, by simp, ?_⟩
    rw [encodeChars_cons, hchar, hmore]
    rfl
  | case4 read start length b rest hb p hlead ih =>
    obtain rfl : begun = [] := hbegun
    exact ih (sound_of_ofLead? hlead) (begun_of_ofLead? hlead) h
  | case5 => simp at h
  | case6 read start length value owed low high b rest hrange next howed =>
    rename_i ih
    have hnone : Progress.Begun [] .boundary := rfl
    obtain ⟨more, rfl, hmore⟩ := ih trivial hnone h
    obtain rfl : owed = 1 := Nat.le_antisymm howed (Progress.Open.owed_pos hp)
    obtain ⟨-, hbytes, hlength⟩ := Progress.Open.concat (v := next) hp hbegun hrange.1 hrange.2
      (Nat.div_one _)
    have hchar : begun ++ [b] = String.utf8EncodeChar (Char.ofNat next) :=
      hbytes.eq_of_length (by simpa using hlength.symm)
    refine ⟨Char.ofNat next :: more, by simp, ?_⟩
    rw [encodeChars_cons, ← hchar, hmore]
    simp
  | case7 read start length value owed low high b rest hrange next howed =>
    rename_i ih
    have howed := Nat.lt_of_not_le howed
    obtain ⟨more, rfl, hmore⟩ := ih (Progress.Open.step hp howed hrange.1 hrange.2)
      (Progress.Open.begun_step hp hbegun howed hrange.1 hrange.2) h
    exact ⟨more, rfl, by simpa using hmore⟩
  | case8 => simp at h

/-- Bytes are read strictly as a text exactly if they are its bytes. -/
theorem strictDecode_eq_ok_iff {bytes : List UInt8} {text : String} :
    strictDecode bytes = .ok text ↔ bytes = encode text := by
  constructor
  · intro h
    cases hread : strictOnto [] 0 0 .boundary bytes with
    | error fault => simp [strictDecode, hread, Except.map] at h
    | ok chars =>
      have hnone : Progress.Begun [] .boundary := rfl
      obtain ⟨more, hchars, hmore⟩ := strictOnto_sound (p := .boundary) trivial hnone hread
      obtain rfl : String.ofList chars = text := by simpa [strictDecode, hread, Except.map] using h
      simpa [encode, hchars] using hmore.symm
  · rintro rfl
    exact strictDecode_encode text

end DaemonDialogue.Utf8
