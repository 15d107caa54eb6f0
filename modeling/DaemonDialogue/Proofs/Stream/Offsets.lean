import DaemonDialogue.Proofs.Stream.Search

/-!
# Where the bytes of a unified stream begin

A stream whose line ends are unified comes with a table of the places where its bytes begin in the
stream as it was written. An entry is the width of the units in front of it. A cut behind some units
divides no line end, so what stands between two entries is unified on its own, and the entries are
all places of the stream but those within a line end.

A search runs over the unified bytes; the ends of its range are entries of the table.
-/

namespace DaemonDialogue

namespace Newline

variable {raw : List UInt8}

theorem normalize_crlf (rest : List UInt8) :
    normalize (carriageReturn :: lineFeed :: rest) = lineFeed :: normalize rest := by
  rw [normalize, units_crlf, List.map_cons]
  rfl

theorem normalize_cons {a : UInt8} {rest : List UInt8}
    (h : ¬(a = carriageReturn ∧ rest.head? = some lineFeed)) :
    normalize (a :: rest) = a :: normalize rest := by
  rw [normalize, units_cons h, List.map_cons]
  rfl

theorem length_normalize (raw : List UInt8) : (normalize raw).length = (units raw).length :=
  List.length_map ..

theorem getLast?_normalize (raw : List UInt8) : (normalize raw).getLast? = raw.getLast? := by
  induction raw using units_induction with
  | nil => rfl
  | crlf rest ih => simp [normalize_crlf, List.getLast?_cons, ih]
  | byte a rest h ih => simp [normalize_cons h, List.getLast?_cons, ih]

/-! ## Cuts between units -/

theorem exists_cut (raw : List UInt8) (count : Nat) :
    ∃ before after, raw = before ++ after ∧ units before = (units raw).take count ∧
      units after = (units raw).drop count ∧ ¬Splits before after := by
  induction raw using units_induction generalizing count with
  | nil => exact ⟨[], [], rfl, by simp, by simp, by simp [Splits]⟩
  | crlf rest ih =>
    cases count with
    | zero => exact ⟨[], _, rfl, rfl, rfl, by simp [Splits]⟩
    | succ count =>
      obtain ⟨before, after, rfl, hbefore, hafter, hwhole⟩ := ih count
      refine ⟨carriageReturn :: lineFeed :: before, after, rfl, ?_, ?_, ?_⟩
      · rw [units_crlf, units_crlf, hbefore, List.take_succ_cons]
      · rw [units_crlf, hafter, List.drop_succ_cons]
      · rintro ⟨hlast, hhead⟩
        cases before with
        | nil => simp [carriageReturn, lineFeed] at hlast
        | cons b before => exact hwhole ⟨by simpa using hlast, hhead⟩
  | byte a rest h ih =>
    cases count with
    | zero => exact ⟨[], _, rfl, rfl, rfl, by simp [Splits]⟩
    | succ count =>
      obtain ⟨before, after, rfl, hbefore, hafter, hwhole⟩ := ih count
      have ha : ¬(a = carriageReturn ∧ before.head? = some lineFeed) := by
        rintro ⟨rfl, hhead⟩
        exact h ⟨rfl, by rw [List.head?_append, hhead, Option.some_or]⟩
      refine ⟨a :: before, after, rfl, ?_, ?_, ?_⟩
      · rw [units_cons ha, units_cons h, hbefore, List.take_succ_cons]
      · rw [units_cons h, hafter, List.drop_succ_cons]
      · rintro ⟨hlast, hhead⟩
        cases before with
        | nil => exact h ⟨by simpa using hlast, hhead⟩
        | cons b before => exact hwhole ⟨by simpa using hlast, hhead⟩

theorem cut_units (raw : List UInt8) (count : Nat) :
    let place := rawLength ((units raw).take count)
    units (raw.take place) = (units raw).take count ∧
      units (raw.drop place) = (units raw).drop count ∧
      ¬Splits (raw.take place) (raw.drop place) := by
  obtain ⟨before, after, hraw, hbefore, hafter, hwhole⟩ := exists_cut raw count
  have hplace : rawLength ((units raw).take count) = before.length := by
    rw [← hbefore, rawLength_units]
  have htake : raw.take before.length = before := by rw [hraw, List.take_left]
  have hdrop : raw.drop before.length = after := by rw [hraw, List.drop_left]
  rw [hplace]
  dsimp only
  rw [htake, hdrop]
  exact ⟨hbefore, hafter, hwhole⟩

theorem units_between (raw : List UInt8) {i j : Nat} (h : i ≤ j) :
    units ((raw.take (rawLength ((units raw).take j))).drop (rawLength ((units raw).take i))) =
      ((units raw).take j).drop i := by
  obtain ⟨hlast, -, -⟩ := cut_units raw j
  obtain ⟨-, hfirst, -⟩ := cut_units (raw.take (rawLength ((units raw).take j))) i
  rwa [hlast, List.take_take, min_eq_left h] at hfirst

/-! ## Entries of the table -/

theorem offsets_go (start : Nat) (us : List Newline.Unit) :
    offsets.go start us = us.scanl (fun place u => place + u.width) start := by
  induction us generalizing start with
  | nil => rfl
  | cons u us ih => rw [offsets.go, ih, List.scanl_cons]

theorem offsets_eq (raw : List UInt8) :
    offsets raw = (units raw).scanl (fun place u => place + u.width) 0 :=
  offsets_go 0 (units raw)

/-- An entry is the number of bytes that the units in front of it stand for. -/
theorem getElem?_offsets_iff {i place : Nat} :
    (offsets raw)[i]? = some place ↔
      i ≤ (normalize raw).length ∧ rawLength ((units raw).take i) = place := by
  rw [offsets_eq, List.getElem?_scanl, length_normalize, Option.ite_none_right_eq_some,
    Option.some_inj]
  rfl

theorem width_pos {u : Newline.Unit} (h : u ∈ units raw) : 0 < u.width := by
  induction raw using units_induction with
  | nil => cases h
  | crlf rest ih =>
    rw [units_crlf] at h
    rcases List.mem_cons.1 h with rfl | hrest
    · exact Nat.two_pos
    · exact ih hrest
  | byte a rest ha ih =>
    rw [units_cons ha] at h
    rcases List.mem_cons.1 h with rfl | hrest
    · exact Nat.one_pos
    · exact ih hrest

/-- The entries grow, since every unit stands for a byte at least. -/
theorem pairwise_offsets (raw : List UInt8) : (offsets raw).Pairwise (· < ·) := by
  refine (List.isChain_iff_getElem.2 fun i hi => ?_).pairwise
  simp only [offsets_eq, List.getElem_succ_scanl]
  exact Nat.lt_add_of_pos_right (width_pos (List.getElem_mem _))

/-- The entries are the places that are not within a line end. -/
theorem mem_offsets_iff {place : Nat} :
    place ∈ offsets raw ↔ place ≤ raw.length ∧ ¬Splits (raw.take place) (raw.drop place) := by
  rw [List.mem_iff_getElem?]
  constructor
  · rintro ⟨i, hi⟩
    obtain ⟨-, rfl⟩ := getElem?_offsets_iff.1 hi
    refine ⟨?_, (cut_units raw i).2.2⟩
    calc rawLength ((units raw).take i)
        ≤ rawLength (units raw) := rawLength_le (List.take_sublist i _)
      _ = raw.length := rawLength_units raw
  · rintro ⟨hwithin, hwhole⟩
    have hunits := units_append hwhole
    rw [List.take_append_drop] at hunits
    refine ⟨(units (raw.take place)).length, getElem?_offsets_iff.2 ⟨?_, ?_⟩⟩
    · rw [length_normalize, hunits, List.length_append]
      exact Nat.le_add_right _ _
    · rw [hunits, List.take_left, rawLength_units, List.length_take, min_eq_left hwithin]

/-! ## The table as a whole -/

/-- Does a table say where the bytes of a unified stream begin in the stream as it was written, and
where the last one ends? -/
structure Translates (raw unified : List UInt8) (table : List Nat) : Prop where
  length : table.length = unified.length + 1
  increasing : table.Pairwise (· < ·)
  first : table.head? = some 0
  last : table.getLast? = some raw.length
  /-- The entries are the places that are not within a line end. -/
  places : ∀ place, place ∈ table ↔
    place ≤ raw.length ∧ ¬Splits (raw.take place) (raw.drop place)
  /-- A unified byte is the last one in front of the next entry. -/
  byte : ∀ i next, table[i + 1]? = some next → unified[i]? = (raw.take next).getLast?
  /-- What stands between two entries is unified on its own. -/
  between : ∀ i j, i ≤ j → j ≤ unified.length →
    ∃ start stop, table[i]? = some start ∧ table[j]? = some stop ∧
      normalize ((raw.take stop).drop start) = (unified.take j).drop i

theorem translates_offsets (raw : List UInt8) : Translates raw (normalize raw) (offsets raw) where
  length := by rw [offsets_eq, List.length_scanl, length_normalize]
  increasing := pairwise_offsets raw
  first := by rw [offsets_eq, List.head?_scanl]
  last := by
    rw [offsets_eq, List.getLast?_scanl]
    exact congrArg some (rawLength_units raw)
  places := fun _ => mem_offsets_iff
  byte := by
    intro i next hnext
    obtain ⟨hi, rfl⟩ := getElem?_offsets_iff.1 hnext
    have hbefore : normalize (raw.take (rawLength ((units raw).take (i + 1)))) =
        (normalize raw).take (i + 1) := by
      rw [normalize, (cut_units raw (i + 1)).1, List.map_take]
      rfl
    rw [← getLast?_normalize, hbefore, List.getLast?_take, if_neg (Nat.succ_ne_zero i),
      Nat.add_sub_cancel, List.getElem?_eq_getElem hi, Option.some_or]
  between := by
    intro i j hij hj
    refine ⟨_, _, getElem?_offsets_iff.2 ⟨hij.trans hj, rfl⟩, getElem?_offsets_iff.2 ⟨hj, rfl⟩, ?_⟩
    rw [normalize, units_between raw hij, List.map_drop, List.map_take]
    rfl

theorem Translates.unique {unified : List UInt8} {table : List Nat}
    (h : Translates raw unified table) : unified = normalize raw ∧ table = offsets raw := by
  have htable : table = offsets raw :=
    h.increasing.eq_of_mem_iff (pairwise_offsets raw) fun place => by
      rw [h.places, mem_offsets_iff]
  subst htable
  have hlength : unified.length = (normalize raw).length :=
    Nat.succ_inj.1 (h.length.symm.trans (translates_offsets raw).length)
  refine ⟨List.ext_getElem? fun i => ?_, rfl⟩
  rcases Nat.lt_or_ge i unified.length with hi | hi
  · obtain ⟨next, -, hnext, -⟩ := h.between (i + 1) (i + 1) le_rfl hi
    rw [h.byte i next hnext, (translates_offsets raw).byte i next hnext]
  · rw [List.getElem?_eq_none hi, List.getElem?_eq_none (hlength ▸ hi)]

/-! ## Streams in parts -/

theorem normalize_append {before after : List UInt8} (h : ¬Splits before after) :
    normalize (before ++ after) = normalize before ++ normalize after := by
  rw [normalize, units_append h, List.map_append]
  rfl

/-- A cut within a line end leaves the carriage return to the first part. -/
theorem Splits.exists_normalize {before after : List UInt8} (h : Splits before after) :
    ∃ kept rest, normalize before = kept ++ [carriageReturn] ∧
      normalize after = lineFeed :: rest ∧
      normalize (before ++ after) = kept ++ lineFeed :: rest := by
  obtain ⟨front, rest, hbefore, hafter, hwhole⟩ := h.exists_units
  refine ⟨normalize front, normalize rest, ?_, ?_, ?_⟩
  · simp [normalize, hbefore]
  · simp [normalize, hafter]
  · simp [normalize, hwhole]

/-- The table of a stream translates its unified bytes. A stream is unified part by part; only
where a cut divides a line end, the carriage return in front of the cut is dropped as well. -/
theorem offsets_translate (raw : List UInt8) :
    Translates raw (normalize raw) (offsets raw) ∧
    ∀ before after, raw = before ++ after →
      (¬Splits before after → normalize raw = normalize before ++ normalize after) ∧
      (Splits before after → ∃ kept rest, normalize before = kept ++ [carriageReturn] ∧
        normalize after = lineFeed :: rest ∧ normalize raw = kept ++ lineFeed :: rest) := by
  refine ⟨translates_offsets raw, ?_⟩
  rintro before after rfl
  exact ⟨normalize_append, Splits.exists_normalize⟩

/-- Two carriage returns in front of a line feed, cut within the line end: the first one ends no
line and stays. -/
theorem offsets_translate_divided :
    let raw := [97, 13, 13, 10, 98]
    Splits [97, 13, 13] [10, 98] ∧ offsets raw = [0, 1, 2, 4, 5] ∧
      normalize ((raw.take 4).drop 1) = ((normalize raw).take 3).drop 1 ∧
      ∃ kept rest, normalize [97, 13, 13] = kept ++ [carriageReturn] ∧
        normalize [10, 98] = lineFeed :: rest ∧ normalize raw = kept ++ lineFeed :: rest := by
  intro raw
  obtain ⟨htable, hparts⟩ := offsets_translate raw
  have hsplits : Splits [97, 13, 13] [10, 98] := ⟨rfl, rfl⟩
  refine ⟨hsplits, by decide, ?_, (hparts _ _ rfl).2 hsplits⟩
  obtain ⟨start, stop, hstart, hstop, hbetween⟩ := htable.between 1 3 (by decide) (by decide)
  obtain rfl : 1 = start := Option.some.inj hstart
  obtain rfl : 4 = stop := Option.some.inj hstop
  exact hbetween

end Newline

namespace Cursor

open Newline (normalize offsets)

/-- The ends of what is found are entries of the table: where the text begins among the unified
bytes, and where it ends. -/
theorem findRange?_eq_some_iff {text raw : List UInt8} {start stop : Nat} :
    findRange? text raw = some (start, stop) ↔
      ∃ place, findFrom (normalize text) 0 (normalize raw) = some place ∧
        (offsets raw)[place]? = some start ∧
        (offsets raw)[place + (normalize text).length]? = some stop := by
  rw [findRange?, Option.map_eq_some_iff]
  refine exists_congr fun place => and_congr_right fun hplace => ?_
  -- The text ends within the unified bytes, so both ends have an entry.
  have hstop : place + (normalize text).length ≤ (normalize raw).length := by
    obtain ⟨i, rfl, hi, hat, -⟩ := (findFrom_eq_some_iff _ _ _).1 hplace
    have hlength := hat.length_le
    rw [List.length_drop] at hlength
    change i ≤ (normalize raw).length at hi
    change _ ≤ (normalize raw).length - i at hlength
    omega
  have hstart : place ≤ (normalize raw).length := Nat.le_of_add_right_le hstop
  rw [Newline.getElem?_offsets_iff, Newline.getElem?_offsets_iff, and_iff_right hstart,
    and_iff_right hstop, Prod.mk.injEq]

end Cursor
end DaemonDialogue
