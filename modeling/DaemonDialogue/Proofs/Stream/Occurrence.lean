import DaemonDialogue.Proofs.Stream.Offsets

/-!
# The leftmost occurrence

A search runs over the units of a stream, but what it finds is a range of raw bytes. A range that
does not end within a line end can be moved to begin where a unit begins, so that the leftmost
place among the units is the leftmost of all ranges that read like the text.
-/

namespace DaemonDialogue

namespace Newline

/-- A stream with one line feed for every carriage return and line feed, from left to right. -/
def collapse : List UInt8 → List UInt8
  | [] => []
  | [b] => [b]
  | a :: b :: rest =>
    if a = carriageReturn ∧ b = lineFeed then lineFeed :: collapse rest
    else a :: collapse (b :: rest)

/-- Does a range of a stream read like a text, line ends of either kind alike? Where it ends, no
line end is cut. -/
structure Occurs (text raw : List UInt8) (start stop : Nat) : Prop where
  ordered : start ≤ stop
  within : stop ≤ raw.length
  whole : ¬Splits (raw.take stop) (raw.drop stop)
  reads : collapse ((raw.take stop).drop start) = collapse text

variable {text raw : List UInt8} {start stop : Nat}

theorem collapse_crlf (rest : List UInt8) :
    collapse (carriageReturn :: lineFeed :: rest) = lineFeed :: collapse rest := by
  rw [collapse, if_pos ⟨rfl, rfl⟩]

theorem collapse_cons {a : UInt8} {rest : List UInt8}
    (h : ¬(a = carriageReturn ∧ rest.head? = some lineFeed)) :
    collapse (a :: rest) = a :: collapse rest := by
  cases rest with
  | nil => rfl
  | cons b rest => rw [collapse, if_neg (by simpa using h)]

theorem normalize_eq_collapse (raw : List UInt8) : normalize raw = collapse raw := by
  induction raw using units_induction with
  | nil => rfl
  | crlf rest ih => rw [collapse_crlf, normalize_crlf, ih]
  | byte a rest h ih => rw [collapse_cons h, normalize_cons h, ih]

/-! ## Ranges and units -/

/-- A range that begins within a line end reads like the one that begins before it. -/
theorem Occurs.exists_aligned (h : Occurs text raw start stop) :
    ∃ first ≤ start, Occurs text raw first stop ∧ ¬Splits (raw.take first) (raw.drop first) := by
  by_cases hsplits : Splits (raw.take start) (raw.drop start)
  · obtain ⟨before, hbefore⟩ := List.getLast?_eq_some_iff.1 hsplits.1
    obtain ⟨after, hafter⟩ := List.head?_eq_some_iff.1 hsplits.2
    have hraw : raw = before ++ carriageReturn :: lineFeed :: after := by
      rw [← List.take_append_drop start raw, hbefore, hafter]
      simp
    have hlength : before.length + 1 = start := by
      have hbytes := congrArg List.length hbefore
      rw [List.length_take, List.length_append, List.length_singleton] at hbytes
      have := h.ordered
      have := h.within
      omega
    have hlt : start < stop := by
      refine lt_of_le_of_ne h.ordered ?_
      rintro rfl
      exact h.whole hsplits
    obtain ⟨count, rfl⟩ : ∃ count, stop = before.length + (count + 2) :=
      ⟨stop - before.length - 2, by omega⟩
    have htake : raw.take (before.length + (count + 2)) =
        before ++ carriageReturn :: lineFeed :: after.take count := by
      rw [hraw, List.take_length_add_append, List.take_succ_cons, List.take_succ_cons]
    refine ⟨before.length, by omega, ⟨by omega, h.within, h.whole, ?_⟩, ?_⟩
    · -- The carriage return in front of the range does not count, since a line feed follows it.
      have hreads := h.reads
      rw [htake, ← hlength, List.drop_length_add_append, List.drop_succ_cons, List.drop_zero,
        collapse_cons (by simp [carriageReturn, lineFeed])] at hreads
      rw [htake, List.drop_left, collapse_crlf]
      exact hreads
    · rw [hraw, List.drop_left]
      simp [Splits, carriageReturn, lineFeed]
  · exact ⟨start, le_rfl, h, hsplits⟩

theorem Occurs.units_eq (h : Occurs text raw start stop)
    (haligned : ¬Splits (raw.take start) (raw.drop start)) :
    units raw = units (raw.take start) ++
      (units ((raw.take stop).drop start) ++ units (raw.drop stop)) := by
  have hinner : ¬Splits ((raw.take stop).take start) ((raw.take stop).drop start) := by
    rw [List.take_take, min_eq_left h.ordered]
    rintro ⟨hlast, hhead⟩
    refine haligned ⟨hlast, ?_⟩
    rw [← List.take_append_drop stop raw, List.drop_append_of_le_length, List.head?_append, hhead,
      Option.some_or]
    rw [List.length_take]
    exact le_min h.ordered (h.ordered.trans h.within)
  have houter := units_append h.whole
  have hsplit := units_append hinner
  rw [List.take_append_drop] at houter hsplit
  rw [houter, hsplit, List.take_take, min_eq_left h.ordered, List.append_assoc]

end Newline

namespace Cursor

open Newline (Occurs normalize_eq_collapse units rawLength)

theorem occurs_of_findRange? {text raw : List UInt8} {start stop : Nat}
    (h : findRange? text raw = some (start, stop)) : Occurs text raw start stop := by
  obtain ⟨hordered, hwithin⟩ := findRange?_le h
  obtain ⟨place, hplace, hstart, hstop⟩ := findRange?_eq_some_iff.1 h
  have htable := Newline.translates_offsets raw
  have hwhole := ((htable.places stop).1 (List.mem_of_getElem? hstop)).2
  refine ⟨hordered, hwithin, hwhole, ?_⟩
  obtain ⟨first, last, hfirst, hlast, hbetween⟩ :=
    htable.between place _ (Nat.le_add_right _ _) (Newline.getElem?_offsets_iff.1 hstop).1
  obtain rfl := Option.some.inj (hstart.symm.trans hfirst)
  obtain rfl := Option.some.inj (hstop.symm.trans hlast)
  obtain ⟨i, rfl, -, hat, -⟩ := (findFrom_eq_some_iff _ _ _).1 hplace
  rw [← normalize_eq_collapse text, ← normalize_eq_collapse, hbetween, List.drop_take,
    Nat.add_sub_cancel_left, Nat.zero_add]
  exact (List.prefix_iff_eq_take.1 hat).symm

theorem exists_findRange? {text raw : List UInt8} {first last : Nat}
    (h : Occurs text raw first last) :
    ∃ start stop, findRange? text raw = some (start, stop) ∧ start ≤ first := by
  obtain ⟨edge, hedge, hoccurs, haligned⟩ := h.exists_aligned
  have hunits := hoccurs.units_eq haligned
  have hnormal : Newline.normalize ((raw.take last).drop edge) = Newline.normalize text := by
    rw [normalize_eq_collapse, normalize_eq_collapse, hoccurs.reads]
  have hat : Newline.normalize text <+:
      ((units raw).map (·.byte)).drop (units (raw.take edge)).length := by
    rw [hunits, List.map_append, List.map_append, ← List.length_map (f := (·.byte)),
      List.drop_left]
    change _ <+: Newline.normalize _ ++ _
    rw [hnormal]
    exact List.prefix_append _ _
  cases hfound : findFrom (Newline.normalize text) 0 ((units raw).map (·.byte)) with
  | none =>
    exact absurd (hat.isInfix.trans (List.drop_suffix _ _).isInfix)
      ((findFrom_eq_none_iff _ _).1 hfound)
  | some place =>
    refine ⟨_, _, by rw [findRange?, hfound, Option.map_some], ?_⟩
    obtain ⟨i, rfl, -, -, hmin⟩ := (findFrom_eq_some_iff _ _ _).1 hfound
    have hle : i ≤ (units (raw.take edge)).length := by
      by_contra hlt
      exact hmin _ (not_le.1 hlt) hat
    calc rawLength ((units raw).take (0 + i))
        ≤ rawLength ((units raw).take (units (raw.take edge)).length) := by
          rw [Nat.zero_add]
          exact Newline.rawLength_le (List.take_sublist_take_left hle)
      _ = rawLength (units (raw.take edge)) := by rw [hunits, List.take_left]
      _ ≤ first := by
          rw [Newline.rawLength_units, List.length_take]
          omega

/-- A look finds a text exactly if it occurs among what is not consumed, line ends of either kind
alike. It finds the leftmost occurrence and moves the cursor behind it. Where there is none, the
cursor stays, and the look says whether one can still come. -/
theorem scan_leftmost (c : Cursor) (b : Buffer) (text : String) :
    let raw := b.bytes.drop c.position
    let occurs := Occurs (Utf8.encode text) raw
    ((∃ start stop, (c.scan b text).1 = .found start stop) ↔ ∃ first last, occurs first last) ∧
    (∀ start stop, (c.scan b text).1 = .found start stop →
      ∃ first last, start = c.position + first ∧ stop = c.position + last ∧ occurs first last ∧
        (∀ other behind, occurs other behind → first ≤ other) ∧ (c.scan b text).2 = ⟨stop⟩) ∧
    ((∀ first last, ¬occurs first last) →
      c.scan b text = (if b.closed then .closed else .pending, c)) := by
  intro raw occurs
  rcases c.scan_cases b text with ⟨first, last, hrange, hscan⟩ | ⟨hrange, hscan⟩
  · have hoccurs : occurs first last := occurs_of_findRange? hrange
    rw [hscan]
    refine ⟨⟨fun _ => ⟨first, last, hoccurs⟩, fun _ => ⟨_, _, rfl⟩⟩, ?_,
      fun hnone => absurd hoccurs (hnone first last)⟩
    rintro start stop ⟨⟩
    refine ⟨first, last, rfl, rfl, hoccurs, fun other behind hother => ?_, rfl⟩
    obtain ⟨found, _, hfound, hle⟩ := exists_findRange? hother
    obtain ⟨rfl, -⟩ := Prod.mk.inj (Option.some.inj (hrange.symm.trans hfound))
    exact hle
  · have hnone : ∀ first last, ¬occurs first last := by
      intro first last hoccurs
      obtain ⟨_, _, hfound, -⟩ := exists_findRange? hoccurs
      cases hrange.symm.trans hfound
    have hmissed : ∀ start stop,
        (if b.closed then Scan.closed else .pending) ≠ .found start stop := by
      intro start stop
      split_ifs <;> simp
    rw [hscan]
    exact ⟨⟨fun ⟨start, stop, hfound⟩ => absurd hfound (hmissed start stop),
        fun ⟨first, last, hoccurs⟩ => absurd hoccurs (hnone first last)⟩,
      fun start stop hfound => absurd hfound (hmissed start stop), fun _ => rfl⟩

/-- A carriage return that ends no line is not part of a match. -/
example : findRange? [10] [13, 13, 10] = some (1, 3) := by decide

end Cursor
end DaemonDialogue
