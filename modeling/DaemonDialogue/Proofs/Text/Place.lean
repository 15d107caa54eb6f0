import DaemonDialogue.Proofs.Text.Decode

/-!
# Places in bytes and in their text

Wherever the bytes of a text stand in a stream, they are read as that text, and the stream is read
around them as if they were not there. A stream falls into parts that are each read as one
character: its bytes, or up to three bytes that are no character. So a place in the text is a place
in the stream, and never one behind it.
-/

namespace DaemonDialogue.Utf8

/-- What is read from bytes behind a character that may be open. -/
def readFrom (p : Progress) (bytes : List UInt8) : List Char :=
  (run p bytes).1 ++ flush (run p bytes).2

@[simp] theorem readFrom_nil (p : Progress) : readFrom p [] = flush p := rfl

@[simp] theorem readFrom_cons (p : Progress) (b : UInt8) (rest : List UInt8) :
    readFrom p (b :: rest) = (step p b).1 ++ readFrom (step p b).2 rest := by
  simp [readFrom, run]

theorem readFrom_append (p : Progress) (before after : List UInt8) :
    readFrom p (before ++ after) = (run p before).1 ++ readFrom (run p before).2 after := by
  simp [readFrom, run_append]

theorem decodeChars_eq_readFrom (bytes : List UInt8) :
    decodeChars bytes = readFrom .boundary bytes := decodeChars_eq bytes

@[simp] theorem decodeChars_nil : decodeChars [] = [] := rfl

/-! ## A text within a stream -/

theorem run_of_strictOnto {read : List Char} {start length : Nat} {p : Progress}
    {bytes : List UInt8} {text : List Char} (h : strictOnto read start length p bytes = .ok text) :
    ∃ more, text = read.reverse ++ more ∧ run p bytes = (more, .boundary) := by
  fun_induction strictOnto read start length p bytes with
  | case1 read start length =>
    obtain rfl := Except.ok.inj h
    exact ⟨[], by simp, rfl⟩
  | case2 => cases h
  | case3 read start length b rest hb ih =>
    obtain ⟨more, rfl, hrun⟩ := ih h
    refine ⟨Char.ofNat b.toNat :: more, by simp, ?_⟩
    simp [run, step, lead, hb, hrun]
  | case4 read start length b rest hb p hlead ih =>
    obtain ⟨more, rfl, hrun⟩ := ih h
    refine ⟨more, rfl, ?_⟩
    simp [run, step, lead, hb, hlead, hrun]
  | case5 => cases h
  | case6 read start length value owed low high b rest hrange next howed =>
    rename_i ih
    obtain ⟨more, rfl, hrun⟩ := ih h
    refine ⟨Char.ofNat next :: more, by simp, ?_⟩
    rw [run, step_inside, if_pos hrange, if_pos howed]
    dsimp only
    rw [hrun]
    rfl
  | case7 read start length value owed low high b rest hrange next howed =>
    rename_i ih
    obtain ⟨more, rfl, hrun⟩ := ih h
    refine ⟨more, rfl, ?_⟩
    rw [run, step_inside, if_pos hrange, if_neg howed]
    dsimp only
    rw [hrun]
    rfl
  | case8 => cases h

theorem run_encodeChars (text : List Char) :
    run .boundary (encodeChars text) = (text, .boundary) := by
  obtain ⟨more, hmore, hrun⟩ := run_of_strictOnto (strictOnto_encodeChars [] 0 text)
  obtain rfl : text = more := by simpa using hmore
  exact hrun

theorem readFrom_lead {p : Progress} (hp : p.Sound) {b : UInt8}
    (hb : b.toNat < 0x80 ∨ 0xC0 ≤ b.toNat) (rest : List UInt8) :
    readFrom p (b :: rest) = flush p ++ decodeChars (b :: rest) := by
  rw [decodeChars_eq_readFrom]
  cases p with
  | boundary => rfl
  | inside value owed low high =>
    obtain ⟨hlow, hhigh, -, -⟩ := hp
    have hout : ¬(low ≤ b ∧ b ≤ high) := by
      rw [UInt8.le_iff_toNat_le, UInt8.le_iff_toNat_le]
      omega
    rw [readFrom_cons, readFrom_cons, step_inside, if_neg hout]
    rfl

/-- The first byte of a character continues none. -/
theorem exists_utf8EncodeChar (c : Char) :
    ∃ b rest, String.utf8EncodeChar c = b :: rest ∧ (b.toNat < 0x80 ∨ 0xC0 ≤ b.toNat) := by
  have hvalid : c.val.toNat.isValidChar := c.valid
  have hself : Char.ofNat c.val.toNat = c := Char.ofNat_toNat c
  generalize c.val.toNat = n at hvalid hself
  subst hself
  rw [utf8EncodeChar_ofNat hvalid]
  split_ifs
  · exact ⟨_, _, rfl, .inl (by simp; omega)⟩
  · exact ⟨_, _, rfl, .inr (by simp; omega)⟩
  · exact ⟨_, _, rfl, .inr (by simp; omega)⟩
  · exact ⟨_, _, rfl, .inr (by simp; omega)⟩

/-- The bytes of a text are read as that text in any stream, and the rest as if they were not
there. -/
theorem decodeChars_around (before : List UInt8) {text : List Char} (hne : text ≠ [])
    (after : List UInt8) :
    decodeChars (before ++ (encodeChars text ++ after)) =
      decodeChars before ++ (text ++ decodeChars after) := by
  have hsound : (run .boundary before).2.Sound := Progress.Sound.run (p := .boundary) trivial before
  have hinner : decodeChars (encodeChars text ++ after) = text ++ decodeChars after := by
    rw [decodeChars_eq_readFrom, readFrom_append, run_encodeChars, ← decodeChars_eq_readFrom]
  obtain ⟨b, rest, hbytes, hb⟩ : ∃ b rest, encodeChars text ++ after = b :: rest ∧
      (b.toNat < 0x80 ∨ 0xC0 ≤ b.toNat) := by
    cases text with
    | nil => exact absurd rfl hne
    | cons c text =>
      obtain ⟨b, rest, hchar, hb⟩ := exists_utf8EncodeChar c
      exact ⟨b, _, by rw [encodeChars_cons, hchar]; rfl, hb⟩
  rw [decodeChars_eq_readFrom, readFrom_append, ← hinner, hbytes, readFrom_lead hsound hb,
    decodeChars_eq before, List.append_assoc]

/-! ## The parts of a stream -/

theorem owed_le_of_ofLead? {b : UInt8} {value owed : Nat} {low high : UInt8}
    (h : Progress.ofLead? b = some (.inside value owed low high)) : owed ≤ 3 := by
  unfold Progress.ofLead? at h
  split_ifs at h
  all_goals
    simp only [Option.some.injEq, Progress.inside.injEq] at h
    omega

theorem length_replacement : (String.utf8EncodeChar replacement).length = 3 := by decide

/-- A character that is open is completed by some bytes, or it is a part that is no character. In
either case it is at least as long as the part. -/
theorem exists_part_inside {begun : List UInt8} {value owed : Nat} {low high : UInt8}
    (hopen : Progress.Open value owed low high)
    (hbegun : Progress.Begun begun (.inside value owed low high))
    (hshort : begun.length + owed ≤ 4) (bytes : List UInt8) :
    ∃ c more rest, bytes = more ++ rest ∧
      (begun ++ more).length ≤ (String.utf8EncodeChar c).length ∧
      ∀ tail, tail <+: rest →
        readFrom (.inside value owed low high) (more ++ tail) = c :: decodeChars tail := by
  have hpart : (begun ++ []).length ≤ (String.utf8EncodeChar replacement).length := by
    have howed := hopen.owed_pos
    rw [List.append_nil, length_replacement]
    omega
  induction bytes generalizing begun value owed low high with
  | nil =>
    refine ⟨replacement, [], [], rfl, hpart, ?_⟩
    intro tail htail
    obtain rfl := List.prefix_nil.1 htail
    rfl
  | cons b bytes ih =>
    by_cases hrange : low ≤ b ∧ b ≤ high
    · by_cases howed : owed ≤ 1
      · obtain rfl : owed = 1 := Nat.le_antisymm howed hopen.owed_pos
        obtain ⟨-, hbytes, hlength⟩ := hopen.concat (v := value * 64 + (b.toNat - 0x80)) hbegun
          hrange.1 hrange.2 (Nat.div_one _)
        refine ⟨Char.ofNat (value * 64 + (b.toNat - 0x80)), [b], bytes, rfl, hlength.ge, ?_⟩
        intro tail _
        rw [List.singleton_append, readFrom_cons, step_inside, if_pos hrange, if_pos le_rfl,
          decodeChars_eq_readFrom]
        rfl
      · have howed := Nat.lt_of_not_le howed
        have hshort' : (begun ++ [b]).length + (owed - 1) ≤ 4 := by
          rw [List.length_append, List.length_singleton]
          omega
        obtain ⟨c, more, rest, rfl, hlength, hread⟩ := ih (hopen.step howed hrange.1 hrange.2)
          (hopen.begun_step hbegun howed hrange.1 hrange.2) hshort'
          (by rw [List.append_nil, length_replacement]; omega)
        refine ⟨c, b :: more, rest, rfl, by simpa using hlength, ?_⟩
        intro tail htail
        rw [List.cons_append, readFrom_cons, step_inside, if_pos hrange,
          if_neg (Nat.not_le.2 howed)]
        exact hread tail htail
    · -- The part ends where a byte stands that cannot go on with it.
      refine ⟨replacement, [], b :: bytes, rfl, hpart, ?_⟩
      intro tail htail
      cases tail with
      | nil => rfl
      | cons b' tail =>
        obtain ⟨rfl, -⟩ := List.cons_prefix_cons.1 htail
        rw [List.nil_append, readFrom_cons, step_inside, if_neg hrange, decodeChars_eq_readFrom,
          readFrom_cons]
        rfl

/-- The first part of a stream: it is read as one character that is at least as long, and so it is
in front of any beginning of what follows. -/
theorem exists_part {bytes : List UInt8} (hne : bytes ≠ []) :
    ∃ c part rest, bytes = part ++ rest ∧ part.length ≤ (String.utf8EncodeChar c).length ∧
      ∀ tail, tail <+: rest → decodeChars (part ++ tail) = c :: decodeChars tail := by
  cases bytes with
  | nil => exact absurd rfl hne
  | cons b bytes =>
    by_cases hascii : b.toNat < 0x80
    · refine ⟨Char.ofNat b.toNat, [b], bytes, rfl, ?_, ?_⟩
      · obtain ⟨first, rest, hchar, -⟩ := exists_utf8EncodeChar (Char.ofNat b.toNat)
        rw [hchar, List.length_singleton, List.length_cons]
        omega
      · intro tail _
        exact decodeChars_append_ascii [] tail hascii
    · have hlead : ¬b < 0x80 := by rwa [UInt8.lt_iff_toNat_lt]
      cases hprogress : Progress.ofLead? b with
      | none =>
        refine ⟨replacement, [b], bytes, rfl, by rw [length_replacement]; simp, ?_⟩
        intro tail _
        rw [List.singleton_append, decodeChars_eq_readFrom, decodeChars_eq_readFrom tail,
          readFrom_cons, step, lead, if_neg hlead, hprogress]
        rfl
      | some p =>
        have hbegun := begun_of_ofLead? hprogress
        cases p with
        | boundary => simp [Progress.Begun] at hbegun
        | inside value owed low high =>
          have howed := owed_le_of_ofLead? hprogress
          obtain ⟨c, more, rest, rfl, hlength, hread⟩ := exists_part_inside
            (sound_of_ofLead? hprogress) hbegun (by rw [List.length_singleton]; omega) bytes
          refine ⟨c, b :: more, rest, rfl, hlength, ?_⟩
          intro tail htail
          rw [List.cons_append, decodeChars_eq_readFrom, readFrom_cons, step, lead,
            if_neg hlead, hprogress]
          exact hread tail htail

/-- A place in the text of a stream is a place in the stream, and not behind it. The stream is read
apart there, also where only a beginning of what follows has arrived. -/
theorem exists_place {bytes : List UInt8} {before after : List Char}
    (h : decodeChars bytes = before ++ after) :
    ∃ raw rest, bytes = raw ++ rest ∧ decodeChars rest = after ∧
      raw.length ≤ (encodeChars before).length ∧
      ∀ tail, tail <+: rest → decodeChars (raw ++ tail) = before ++ decodeChars tail := by
  induction before generalizing bytes with
  | nil => exact ⟨[], bytes, rfl, h, le_rfl, fun tail _ => rfl⟩
  | cons c before ih =>
    have hne : bytes ≠ [] := by
      rintro rfl
      cases h
    obtain ⟨first, part, rest, rfl, hpart, hread⟩ := exists_part hne
    rw [hread rest List.prefix_rfl, List.cons_append] at h
    obtain ⟨rfl, hrest⟩ := List.cons.inj h
    obtain ⟨raw, behind, rfl, hafter, hlength, hraw⟩ := ih hrest
    refine ⟨part ++ raw, behind, by rw [List.append_assoc], hafter, ?_, ?_⟩
    · rw [encodeChars_cons, List.length_append, List.length_append]
      exact Nat.add_le_add hpart hlength
    · intro tail htail
      rw [List.append_assoc, hread _ ((List.prefix_append_right_inj raw).2 htail), hraw tail htail,
        List.cons_append]

theorem decodeChars_ne_nil {bytes : List UInt8} (h : bytes ≠ []) : decodeChars bytes ≠ [] := by
  obtain ⟨c, part, rest, rfl, -, hread⟩ := exists_part h
  rw [hread rest List.prefix_rfl]
  exact List.cons_ne_nil _ _

/-- The text of a stream is at least as long as the stream. -/
theorem length_le_decodeChars (bytes : List UInt8) :
    bytes.length ≤ (encodeChars (decodeChars bytes)).length := by
  have hall : decodeChars bytes = decodeChars bytes ++ [] := by rw [List.append_nil]
  obtain ⟨raw, rest, hbytes, hrest, hlength, -⟩ := exists_place hall
  have hnil : rest = [] := by
    by_contra hne
    exact decodeChars_ne_nil hne hrest
  rw [hnil, List.append_nil] at hbytes
  rw [← hbytes] at hlength
  exact hlength

/-! ## Parts that are no text -/

/-- Are bytes read as a text of as many bytes? They are where they are a text, and where every part
that is none has as many bytes as the character that stands for it. -/
def Lossless (bytes : List UInt8) : Prop :=
  (encodeChars (decodeChars bytes)).length = bytes.length

instance (bytes : List UInt8) : Decidable (Lossless bytes) :=
  inferInstanceAs (Decidable (_ = _))

theorem decodeChars_encodeChars (text : List Char) : decodeChars (encodeChars text) = text := by
  rw [decodeChars_eq, run_encodeChars]
  exact List.append_nil text

theorem lossless_encodeChars (text : List Char) : Lossless (encodeChars text) := by
  rw [Lossless, decodeChars_encodeChars]

/-- A range of the text of a stream is one of the stream, which does not lie behind it. They are at
the same places exactly if nothing is lost up to the end of the range. -/
theorem exists_range {bytes : List UInt8} {before middle after : List Char}
    (h : decodeChars bytes = before ++ (middle ++ after)) :
    ∃ raw inner rest, bytes = raw ++ (inner ++ rest) ∧ decodeChars raw = before ∧
      decodeChars inner = middle ∧ decodeChars rest = after ∧
      decodeChars (raw ++ inner) = before ++ middle ∧
      raw.length ≤ (encodeChars before).length ∧ inner.length ≤ (encodeChars middle).length ∧
      (raw.length = (encodeChars before).length ∧ inner.length = (encodeChars middle).length ↔
        Lossless (bytes.take ((encodeChars before).length + (encodeChars middle).length))) := by
  obtain ⟨raw, behind, rfl, hbehind, hraw, hfirst⟩ := exists_place h
  obtain ⟨inner, rest, rfl, hrest, hinner, hlast⟩ := exists_place hbehind
  have hbefore : decodeChars raw = before := by simpa using hfirst [] List.nil_prefix
  have hmiddle : decodeChars inner = middle := by simpa using hlast [] List.nil_prefix
  have hall : ∀ tail, tail <+: rest →
      decodeChars (raw ++ (inner ++ tail)) = before ++ (middle ++ decodeChars tail) := by
    intro tail htail
    rw [hfirst _ ((List.prefix_append_right_inj inner).2 htail), hlast tail htail]
  have hfront : decodeChars (raw ++ inner) = before ++ middle := by
    simpa using hall [] List.nil_prefix
  refine ⟨raw, inner, rest, rfl, hbefore, hmiddle, hrest, hfront, hraw, hinner, ?_⟩
  generalize hfrom : (encodeChars before).length = start at hraw
  generalize hlong : (encodeChars middle).length = long at hinner
  obtain ⟨tail, htail⟩ : ∃ tail, rest.take (start + long - raw.length - inner.length) = tail :=
    ⟨_, rfl⟩
  have htake : (raw ++ (inner ++ rest)).take (start + long) = raw ++ (inner ++ tail) := by
    rw [List.take_append, List.take_append, List.take_of_length_le (by omega),
      List.take_of_length_le (by omega), htail]
  have hlength := length_le_decodeChars tail
  rw [Lossless, htake, hall tail (htail ▸ List.take_prefix _ _), encodeChars_append,
    encodeChars_append]
  simp only [List.length_append, hfrom, hlong]
  constructor
  · rintro ⟨rfl, rfl⟩
    obtain rfl : [] = tail := by simpa using htail
    rfl
  · intro hlossless
    omega

/-! ## Boundaries -/

/-- Does an offset in the bytes of a text lie between two of its characters, or at an end? -/
def Boundary (text : List Char) (offset : Nat) : Prop :=
  ∃ before after, text = before ++ after ∧ (encodeChars before).length = offset

theorem encodeChars_cut (before after : List Char) :
    (encodeChars (before ++ after)).take (encodeChars before).length = encodeChars before ∧
      (encodeChars (before ++ after)).drop (encodeChars before).length = encodeChars after := by
  rw [encodeChars_append]
  exact ⟨List.take_left, List.drop_left⟩

theorem boundary_of_take {text before : List Char} {offset : Nat}
    (hoffset : offset ≤ (encodeChars text).length)
    (h : (encodeChars text).take offset = encodeChars before) : Boundary text offset := by
  have hbytes := List.take_append_drop offset (encodeChars text)
  rw [h] at hbytes
  have hread := run_append .boundary (encodeChars before) ((encodeChars text).drop offset)
  rw [hbytes, run_encodeChars, run_encodeChars] at hread
  refine ⟨before, _, congrArg Prod.fst hread, ?_⟩
  rw [← h, List.length_take, Nat.min_eq_left hoffset]

theorem boundary_of_drop {text after : List Char} {offset : Nat}
    (hoffset : offset ≤ (encodeChars text).length)
    (h : (encodeChars text).drop offset = encodeChars after) : Boundary text offset := by
  have hbytes := List.take_append_drop offset (encodeChars text)
  rw [h] at hbytes
  cases after with
  | nil =>
    have hend : (encodeChars text).length ≤ offset := List.drop_eq_nil_iff.1 h
    exact ⟨text, [], (List.append_nil text).symm, Nat.le_antisymm hend hoffset⟩
  | cons c after =>
    have hread := decodeChars_around ((encodeChars text).take offset) (List.cons_ne_nil c after) []
    have hnone : decodeChars [] = [] := rfl
    rw [List.append_nil, hbytes, decodeChars_encodeChars, hnone, List.append_nil] at hread
    have hsame := congrArg encodeChars hread
    rw [encodeChars_append] at hsame
    refine ⟨_, _, hread, ?_⟩
    rw [← List.append_cancel_right (hbytes.trans hsame), List.length_take,
      Nat.min_eq_left hoffset]

theorem strictDecode_take_iff (text : String) {offset : Nat}
    (hoffset : offset ≤ (encode text).length) :
    (∃ first, strictDecode ((encode text).take offset) = .ok first) ↔
      Boundary text.toList offset := by
  constructor
  · rintro ⟨first, hfirst⟩
    exact boundary_of_take hoffset (strictDecode_eq_ok_iff.1 hfirst)
  · rintro ⟨before, after, htext, rfl⟩
    refine ⟨String.ofList before, ?_⟩
    rw [encode, htext, (encodeChars_cut before after).1, strictDecode_encodeChars]

theorem strictDecode_drop_iff (text : String) {offset : Nat}
    (hoffset : offset ≤ (encode text).length) :
    (∃ last, strictDecode ((encode text).drop offset) = .ok last) ↔
      Boundary text.toList offset := by
  constructor
  · rintro ⟨last, hlast⟩
    exact boundary_of_drop hoffset (strictDecode_eq_ok_iff.1 hlast)
  · rintro ⟨before, after, htext, rfl⟩
    refine ⟨String.ofList after, ?_⟩
    rw [encode, htext, (encodeChars_cut before after).2, strictDecode_encodeChars]

end DaemonDialogue.Utf8
