import DaemonDialogue.Stream.Buffer
import DaemonDialogue.Stream.Newline
import Mathlib.Tactic

/-!
# Looking for a text in a stream that grows

A unit depends on the bytes around it only as far as they are its own, so the units
of a stream are those of its parts, one after the other. The one exception is a cut
between a carriage return and its line feed: there the first part ends in a unit
that the whole stream does not have.

A search finds the leftmost place of a text among the units of a stream. More output
behind the place of a match leaves the match where it is, unless the match ends in a
carriage return, which may turn out to be half of a line end.
-/

namespace DaemonDialogue.Newline

theorem unitsOnto_eq : ∀ (read : List Newline.Unit) (raw : List UInt8),
    unitsOnto read raw = read.reverse ++ units raw
  | read, [] => by simp [units, unitsOnto]
  | read, [b] => by simp [units, unitsOnto]
  | read, a :: b :: rest => by
    unfold units
    rw [unitsOnto, unitsOnto]
    split_ifs with h
    · rw [unitsOnto_eq (_ :: read) rest, unitsOnto_eq [_] rest]
      simp
    · rw [unitsOnto_eq (_ :: read) (b :: rest), unitsOnto_eq [_] (b :: rest)]
      simp
termination_by _ raw => raw.length

@[simp] theorem units_nil : units [] = [] := rfl

theorem units_crlf (rest : List UInt8) :
    units (carriageReturn :: lineFeed :: rest) = ⟨lineFeed, 2⟩ :: units rest := by
  simp [units, unitsOnto, unitsOnto_eq [_] rest]

theorem units_cons {a : UInt8} {rest : List UInt8}
    (h : ¬(a = carriageReturn ∧ rest.head? = some lineFeed)) :
    units (a :: rest) = ⟨a, 1⟩ :: units rest := by
  cases rest with
  | nil => rfl
  | cons b rest =>
    have hab : ¬(a = carriageReturn ∧ b = lineFeed) := by simpa using h
    rw [units, unitsOnto, if_neg hab, unitsOnto_eq]
    rfl

theorem units_induction {P : List UInt8 → Prop} (nil : P [])
    (crlf : ∀ rest, P rest → P (carriageReturn :: lineFeed :: rest))
    (byte : ∀ a rest, ¬(a = carriageReturn ∧ rest.head? = some lineFeed) → P rest →
      P (a :: rest)) : ∀ raw, P raw
  | [] => nil
  | [a] => byte a [] (by simp) nil
  | a :: b :: rest => by
    by_cases h : a = carriageReturn ∧ b = lineFeed
    · obtain ⟨rfl, rfl⟩ := h
      exact crlf rest (units_induction nil crlf byte rest)
    · exact byte a (b :: rest) (by simpa using h) (units_induction nil crlf byte (b :: rest))
termination_by raw => raw.length

/-- Is a stream cut between the two bytes of a line end? -/
def Splits (before after : List UInt8) : Prop :=
  before.getLast? = some carriageReturn ∧ after.head? = some lineFeed

theorem Splits.cons {before after : List UInt8} (h : Splits before after) (a : UInt8) :
    Splits (a :: before) after := by
  refine ⟨?_, h.2⟩
  cases before with
  | nil => simp [Splits] at h
  | cons b before => simpa using h.1

/-- The units of two parts are those of the whole, unless it is cut inside of a line end. -/
theorem units_append {before after : List UInt8} (h : ¬Splits before after) :
    units (before ++ after) = units before ++ units after := by
  induction before using units_induction with
  | nil => rfl
  | crlf rest ih =>
    have hrest : ¬Splits rest after := fun hs => h (hs.cons _ |>.cons _)
    simp only [List.cons_append, units_crlf, ih hrest]
  | byte a rest ha ih =>
    have hrest : ¬Splits rest after := fun hs => h (hs.cons a)
    have ha' : ¬(a = carriageReturn ∧ (rest ++ after).head? = some lineFeed) := by
      rintro ⟨rfl, hf⟩
      cases rest with
      | nil => exact h ⟨rfl, by simpa using hf⟩
      | cons c rest => exact ha ⟨rfl, by simpa using hf⟩
    rw [List.cons_append, units_cons ha', units_cons ha, ih hrest, List.cons_append]

theorem units_append_crlf (before after : List UInt8) :
    units (before ++ carriageReturn :: lineFeed :: after) =
      units before ++ ⟨lineFeed, 2⟩ :: units after := by
  rw [units_append (by simp [Splits, carriageReturn, lineFeed]), units_crlf]

/-- A cut within a line end makes a unit of either byte. -/
theorem Splits.exists_units {before after : List UInt8} (h : Splits before after) :
    ∃ front rest, units before = units front ++ [⟨carriageReturn, 1⟩] ∧
      units after = ⟨lineFeed, 1⟩ :: units rest ∧
      units (before ++ after) = units front ++ ⟨lineFeed, 2⟩ :: units rest := by
  obtain ⟨front, rfl⟩ := List.getLast?_eq_some_iff.1 h.1
  obtain ⟨rest, rfl⟩ := List.head?_eq_some_iff.1 h.2
  refine ⟨front, rest, ?_, ?_, ?_⟩
  · exact units_append (by simp [Splits, carriageReturn, lineFeed])
  · exact units_cons (by simp [carriageReturn, lineFeed])
  · rw [List.append_assoc, List.singleton_append, units_append_crlf]

theorem units_mono {beginning whole : List UInt8} (h : beginning <+: whole) :
    ∃ common last, units beginning = common ++ last ∧ common <+: units whole ∧
      (last = [] ∨ last = [⟨carriageReturn, 1⟩]) := by
  obtain ⟨rest, rfl⟩ := h
  by_cases hs : Splits beginning rest
  · obtain ⟨front, behind, hbeginning, -, hwhole⟩ := hs.exists_units
    refine ⟨units front, [⟨carriageReturn, 1⟩], hbeginning, ?_, .inr rfl⟩
    rw [hwhole]
    exact List.prefix_append _ _
  · exact ⟨units beginning, [], by simp, by rw [units_append hs]; exact List.prefix_append _ _,
      .inl rfl⟩

theorem rawLength_eq (us : List Newline.Unit) : rawLength us = (us.map (·.width)).sum := by
  have h : ∀ n, us.foldl (fun n u => n + u.width) n = n + (us.map (·.width)).sum := by
    induction us with
    | nil => simp
    | cons u us ih =>
      intro n
      simp [ih, Nat.add_assoc]
  simpa [rawLength] using h 0

theorem rawLength_units (raw : List UInt8) : rawLength (units raw) = raw.length := by
  rw [rawLength_eq]
  induction raw using units_induction with
  | nil => rfl
  | crlf rest ih =>
    simp only [units_crlf, List.map_cons, List.sum_cons, ih, List.length_cons]
    omega
  | byte a rest h ih =>
    simp only [units_cons h, List.map_cons, List.sum_cons, ih, List.length_cons]
    omega

theorem normalize_eq_nil_iff {raw : List UInt8} : normalize raw = [] ↔ raw = [] := by
  constructor
  · intro hnil
    have hlength := rawLength_units raw
    rw [List.map_eq_nil_iff.1 hnil] at hlength
    exact List.length_eq_zero_iff.1 hlength.symm
  · rintro rfl
    rfl

theorem rawLength_le {us more : List Newline.Unit} (h : us.Sublist more) :
    rawLength us ≤ rawLength more := by
  rw [rawLength_eq, rawLength_eq]
  exact (h.map _).sum_le_sum (by simp)

end DaemonDialogue.Newline

namespace DaemonDialogue

theorem findFrom_eq_none_iff {needle : List UInt8} (place : Nat) (text : List UInt8) :
    findFrom needle place text = none ↔ ¬needle <:+: text := by
  induction text generalizing place with
  | nil => simp [findFrom]
  | cons b rest ih =>
    rw [findFrom, List.infix_cons_iff]
    split_ifs with h
    · simp [List.isPrefixOf_iff_prefix.1 h]
    · simp [ih, List.isPrefixOf_iff_prefix] at h ⊢
      exact fun _ => h

/-- A place is found where the text stands there and nowhere before. -/
theorem findFrom_eq_some_iff {needle : List UInt8} (place : Nat) (text : List UInt8) (found : Nat) :
    findFrom needle place text = some found ↔
      ∃ i, found = place + i ∧ i ≤ text.length ∧ needle <+: text.drop i ∧
        ∀ j < i, ¬needle <+: text.drop j := by
  induction text generalizing place with
  | nil =>
    cases needle <;> simp [findFrom, eq_comm]
  | cons b rest ih =>
    rw [findFrom]
    split_ifs with h
    · have hp := List.isPrefixOf_iff_prefix.1 h
      constructor
      · intro hf
        exact ⟨0, by simpa using hf.symm, by simp, hp, by simp⟩
      · rintro ⟨i, rfl, -, -, hmin⟩
        rcases Nat.eq_zero_or_pos i with rfl | hi
        · rfl
        · exact absurd hp (hmin 0 hi)
    · have hp : ¬needle <+: b :: rest := fun hp => h (List.isPrefixOf_iff_prefix.2 hp)
      rw [ih]
      constructor
      · rintro ⟨i, rfl, hi, hat, hmin⟩
        refine ⟨i + 1, by omega, by simpa using hi, by simpa using hat, ?_⟩
        intro j hj
        cases j with
        | zero => exact hp
        | succ j => simpa using hmin j (by omega)
      · rintro ⟨i, rfl, hi, hat, hmin⟩
        cases i with
        | zero => exact absurd hat hp
        | succ i =>
          exact ⟨i, by omega, by simpa using hi, by simpa using hat,
            fun j hj => by simpa using hmin (j + 1) (by omega)⟩

/-- What stands at a place within the common beginning of two texts. -/
theorem prefix_drop_common {needle common : List UInt8} (rest : List UInt8) {i : Nat}
    (h : i + needle.length ≤ common.length) :
    needle <+: (common ++ rest).drop i ↔ needle <+: common.drop i := by
  rw [List.drop_append_of_le_length (by omega), List.prefix_iff_eq_take, List.prefix_iff_eq_take,
    List.take_append_of_le_length (by rw [List.length_drop]; omega)]

/-- A match that lies in the common beginning of two texts is the match in both. -/
theorem findFrom_common {needle common rest rest' : List UInt8} {found : Nat}
    (h : findFrom needle 0 (common ++ rest) = some found)
    (hin : found + needle.length ≤ common.length) :
    findFrom needle 0 (common ++ rest') = some found := by
  rw [findFrom_eq_some_iff] at h ⊢
  obtain ⟨i, rfl, -, hat, hmin⟩ := h
  simp only [Nat.zero_add] at hin ⊢
  refine ⟨i, rfl, by simp; omega, ?_, ?_⟩
  · rwa [prefix_drop_common _ hin] at hat ⊢
  · intro j hj hat'
    rw [prefix_drop_common _ (by omega)] at hat'
    exact hmin j hj ((prefix_drop_common _ (by omega)).2 hat')

/-- A match that does not end in a carriage return lies before a last carriage return. -/
theorem findFrom_within {needle common last : List UInt8} {found : Nat}
    (hlast : last = [] ∨ last = [Newline.carriageReturn])
    (hneedle : needle.getLast? ≠ some Newline.carriageReturn)
    (h : findFrom needle 0 (common ++ last) = some found) :
    found + needle.length ≤ common.length := by
  rw [findFrom_eq_some_iff] at h
  obtain ⟨i, rfl, hi, ⟨behind, hat⟩, hmin⟩ := h
  have hlen := congrArg List.length hat
  simp only [List.length_append, List.length_drop] at hlen hi
  rcases hlast with rfl | rfl
  · simp only [List.length_nil] at hlen hi
    omega
  · simp only [List.length_singleton] at hlen hi
    by_contra hover
    have hne : needle ≠ [] := by
      rintro rfl
      rcases Nat.eq_zero_or_pos i with rfl | hi
      · simp at hover
      · exact hmin 0 hi (List.nil_prefix)
    have hpos := List.length_pos_iff.2 hne
    have hbehind : behind = [] := List.length_eq_zero_iff.1 (by omega)
    subst hbehind
    rw [List.append_nil, List.drop_append_of_le_length (by omega)] at hat
    exact hneedle (by simp [hat])

/-- What stands between two places does not change with what comes behind them. -/
theorem take_drop_mono {raw whole : List UInt8} (h : raw <+: whole) {start stop : Nat}
    (hstop : start < stop → stop ≤ raw.length) :
    (whole.drop start).take (stop - start) = (raw.drop start).take (stop - start) := by
  obtain ⟨rest, rfl⟩ := h
  by_cases hlt : start < stop
  · have hwithin := hstop hlt
    rw [List.drop_append_of_le_length (by omega),
      List.take_append_of_le_length (by rw [List.length_drop]; omega)]
  · rw [Nat.sub_eq_zero_of_le (not_lt.1 hlt), List.take_zero, List.take_zero]

namespace Buffer

theorem length_bytes (b : Buffer) : b.bytes.length = b.length := Array.length_toList

theorem length_append (b : Buffer) (piece : List UInt8) :
    (b.append piece).length = b.length + piece.length := by
  rw [← length_bytes, bytes_append, List.length_append, length_bytes]

theorem textBetween_mono {b more : Buffer} {start stop : Nat} (hb : b.bytes <+: more.bytes)
    (hstop : start < stop → stop ≤ b.length) :
    more.textBetween start stop = b.textBetween start stop := by
  rw [← length_bytes] at hstop
  exact congrArg Utf8.decode (take_drop_mono hb hstop)

end Buffer

namespace Cursor

theorem length_unreadBytes (c : Cursor) (b : Buffer) :
    (c.unreadBytes b).length = b.length - c.position := by
  rw [unreadBytes, List.length_drop, Buffer.length_bytes]

/-- No range is found exactly where the text does not occur, line ends of either kind alike. -/
theorem findRange?_eq_none_iff (text raw : List UInt8) :
    findRange? text raw = none ↔ ¬Newline.normalize text <:+: Newline.normalize raw := by
  simp [findRange?, findFrom_eq_none_iff, Newline.normalize]

theorem findRange?_le {text raw : List UInt8} {start stop : Nat}
    (h : findRange? text raw = some (start, stop)) : start ≤ stop ∧ stop ≤ raw.length := by
  obtain ⟨place, -, hrange⟩ := Option.map_eq_some_iff.1 h
  obtain ⟨rfl, rfl⟩ := Prod.ext_iff.1 hrange
  constructor
  · exact Newline.rawLength_le (List.take_sublist_take_left (by omega))
  · rw [← Newline.rawLength_units raw]
    exact Newline.rawLength_le (List.take_sublist _ _)

/-- More output does not change the range of a match, unless the text ends in a carriage return. -/
theorem findRange?_mono {text raw whole : List UInt8} {range : Nat × Nat}
    (htext : (Newline.normalize text).getLast? ≠ some Newline.carriageReturn)
    (hraw : raw <+: whole) (h : findRange? text raw = some range) :
    findRange? text whole = some range := by
  obtain ⟨common, last, hunits, ⟨rest, hwhole⟩, hlast⟩ := Newline.units_mono hraw
  simp only [findRange?, hunits, ← hwhole, List.map_append] at h ⊢
  obtain ⟨place, hplace, rfl⟩ := Option.map_eq_some_iff.1 h
  have hin := findFrom_within (hlast.imp (by simp +contextual) (by simp +contextual)) htext hplace
  rw [findFrom_common hplace hin]
  rw [List.length_map] at hin
  have htake : ∀ n ≤ common.length, (common ++ rest).take n = (common ++ last).take n := by
    intro n hn
    rw [List.take_append_of_le_length hn, List.take_append_of_le_length hn]
  rw [Option.map_some, htake _ (by omega), htake _ hin]

/-- A look finds a range of the text, or says whether one can still come and leaves the cursor. -/
theorem scan_cases (c : Cursor) (b : Buffer) (text : String) :
    (∃ start stop, findRange? (Utf8.encode text) (c.unreadBytes b) = some (start, stop) ∧
      c.scan b text = (.found (c.position + start) (c.position + stop), ⟨c.position + stop⟩)) ∨
    (findRange? (Utf8.encode text) (c.unreadBytes b) = none ∧
      c.scan b text = (if b.closed then .closed else .pending, c)) := by
  unfold scan
  cases h : findRange? (Utf8.encode text) (c.unreadBytes b) with
  | none => exact .inr ⟨rfl, rfl⟩
  | some range => exact .inl ⟨range.1, range.2, rfl, by simp⟩

theorem textBetween_mono {c : Cursor} {b more : Buffer} {text : List UInt8} {start stop : Nat}
    (hb : b.bytes <+: more.bytes) (h : findRange? text (c.unreadBytes b) = some (start, stop)) :
    more.textBetween (c.position + start) (c.position + stop) =
      b.textBetween (c.position + start) (c.position + stop) := by
  obtain ⟨hstart, hstop⟩ := findRange?_le h
  rw [length_unreadBytes] at hstop
  exact Buffer.textBetween_mono hb (by omega)

end Cursor
end DaemonDialogue
