import DaemonDialogue.Proofs.Stream.Search

/-!
# Readers of a stream

A stream is written while any number of cursors go through it. The stream is what was appended
to it; a cursor goes forward only, and takes ranges that follow each other, so that they and the
gaps between them are all that is in front of it.
-/

namespace DaemonDialogue

/-! ## Ranges -/

namespace Range

/-- Where the last of some ranges ends that begin behind a place. -/
def lastEnd (place : Nat) : List (Nat × Nat) → Nat
  | [] => place
  | (_, stop) :: rest => lastEnd stop rest

/-- Does every range begin behind the end of the one before it? -/
def InOrder (place : Nat) : List (Nat × Nat) → Prop
  | [] => True
  | (start, stop) :: rest => place ≤ start ∧ start ≤ stop ∧ InOrder stop rest

/-- Ranges, each with the gap in front of it. -/
def withGaps (place : Nat) : List (Nat × Nat) → List (Nat × Nat)
  | [] => []
  | (start, stop) :: rest => (place, start) :: (start, stop) :: withGaps stop rest

def bytes (raw : List UInt8) (range : Nat × Nat) : List UInt8 :=
  (raw.drop range.1).take (range.2 - range.1)

variable {place start stop : Nat} {ranges : List (Nat × Nat)}

theorem lastEnd_append (ranges : List (Nat × Nat)) (place start stop : Nat) :
    lastEnd place (ranges ++ [(start, stop)]) = stop := by
  induction ranges generalizing place with
  | nil => rfl
  | cons range rest ih => exact ih range.2

theorem InOrder.append (h : InOrder place ranges) (hstart : lastEnd place ranges ≤ start)
    (hstop : start ≤ stop) : InOrder place (ranges ++ [(start, stop)]) := by
  induction ranges generalizing place with
  | nil => exact ⟨hstart, hstop, trivial⟩
  | cons range rest ih => exact ⟨h.1, h.2.1, ih h.2.2 hstart⟩

theorem InOrder.le_lastEnd (h : InOrder place ranges) : place ≤ lastEnd place ranges := by
  induction ranges generalizing place with
  | nil => exact le_rfl
  | cons range rest ih => exact (h.1.trans h.2.1).trans (ih h.2.2)

theorem InOrder.forall_le (h : InOrder place ranges) :
    ∀ range ∈ ranges, place ≤ range.1 ∧ range.1 ≤ range.2 := by
  induction ranges generalizing place with
  | nil => simp
  | cons first rest ih =>
    refine List.forall_mem_cons.2 ⟨⟨h.1, h.2.1⟩, fun range hrange => ?_⟩
    obtain ⟨hplace, hle⟩ := ih h.2.2 range hrange
    exact ⟨(h.1.trans h.2.1).trans hplace, hle⟩

theorem InOrder.pairwise (h : InOrder place ranges) :
    ranges.Pairwise fun range later => range.2 ≤ later.1 := by
  induction ranges generalizing place with
  | nil => exact .nil
  | cons first rest ih =>
    exact .cons (fun later hlater => (h.2.2.forall_le later hlater).1) (ih h.2.2)

theorem bytes_append (raw : List UInt8) (hstart : place ≤ start) (hstop : start ≤ stop) :
    bytes raw (place, start) ++ bytes raw (start, stop) = bytes raw (place, stop) := by
  have hdrop : raw.drop start = (raw.drop place).drop (start - place) := by
    rw [List.drop_drop, Nat.add_sub_cancel' hstart]
  have hsum : stop - place = (start - place) + (stop - start) := by omega
  rw [bytes, bytes, bytes, hdrop, hsum, List.take_add]

/-- Ranges in order and the gaps between them are all up to the last end. -/
theorem InOrder.flatMap_withGaps (raw : List UInt8) (h : InOrder place ranges) :
    (withGaps place ranges).flatMap (bytes raw) = bytes raw (place, lastEnd place ranges) := by
  induction ranges generalizing place with
  | nil => simp [withGaps, lastEnd, bytes]
  | cons first rest ih =>
    obtain ⟨hplace, hle, hrest⟩ := h
    rw [withGaps, List.flatMap_cons, List.flatMap_cons, ih hrest, ← List.append_assoc,
      bytes_append raw hplace hle, bytes_append raw (hplace.trans hle) hrest.le_lastEnd, lastEnd]

end Range

/-! ## One reader -/

/-- A cursor, and the ranges that it has taken, first to last. -/
structure Reader where
  cursor : Cursor := {}
  taken : List (Nat × Nat) := []
  deriving DecidableEq, Repr

namespace Reader

/-- Looks for a text; a range that is found is taken. -/
def scan (r : Reader) (b : Buffer) (text : String) : Reader :=
  match r.cursor.scan b text with
  | (.found start stop, cursor) => ⟨cursor, r.taken ++ [(start, stop)]⟩
  | (_, cursor) => { r with cursor }

def drain (r : Reader) (b : Buffer) : Reader :=
  let cursor := (r.cursor.drain b).2
  ⟨cursor, r.taken ++ [(r.cursor.position, cursor.position)]⟩

/-- Does the cursor stand where the last of its ranges ends, and within the stream? -/
structure Sound (r : Reader) (b : Buffer) : Prop where
  ordered : Range.InOrder 0 r.taken
  position : r.cursor.position = Range.lastEnd 0 r.taken
  le : r.cursor.position ≤ b.length

/-- Has a reader gone on, and taken further ranges only? -/
structure GoesOn (r next : Reader) : Prop where
  position : r.cursor.position ≤ next.cursor.position
  taken : r.taken <+: next.taken

variable {r next last : Reader} {b : Buffer}

theorem GoesOn.refl (r : Reader) : r.GoesOn r := ⟨le_rfl, List.prefix_rfl⟩

theorem GoesOn.trans (h : r.GoesOn next) (hnext : next.GoesOn last) : r.GoesOn last :=
  ⟨h.position.trans hnext.position, h.taken.trans hnext.taken⟩

theorem Sound.mono {more : Buffer} (h : r.Sound b) (hb : b.length ≤ more.length) :
    r.Sound more :=
  ⟨h.ordered, h.position, h.le.trans hb⟩

theorem Sound.take {start stop : Nat} (h : r.Sound b) (hstart : r.cursor.position ≤ start)
    (hstop : start ≤ stop) (hle : stop ≤ b.length) :
    Sound ⟨⟨stop⟩, r.taken ++ [(start, stop)]⟩ b :=
  ⟨h.ordered.append (h.position ▸ hstart) hstop, (Range.lastEnd_append _ _ _ _).symm, hle⟩

/-- A look takes a range behind the place of the cursor, or changes nothing. -/
theorem scan_cases (h : r.Sound b) (text : String) :
    (∃ start stop, (r.cursor.scan b text).1 = .found start stop ∧ r.cursor.position ≤ start ∧
      start ≤ stop ∧ stop ≤ b.length ∧
      r.scan b text = ⟨⟨stop⟩, r.taken ++ [(start, stop)]⟩) ∨
    ((∀ start stop, (r.cursor.scan b text).1 ≠ .found start stop) ∧ r.scan b text = r) := by
  have hle := h.le
  rcases r.cursor.scan_cases b text with ⟨start, stop, hrange, hscan⟩ | ⟨-, hscan⟩
  · obtain ⟨hstart, hstop⟩ := Cursor.findRange?_le hrange
    rw [Cursor.length_unreadBytes] at hstop
    refine .inl ⟨r.cursor.position + start, r.cursor.position + stop, by rw [hscan], by omega,
      by omega, by omega, by rw [scan, hscan]⟩
  · refine .inr ⟨fun start stop => ?_, ?_⟩
    · rw [hscan]
      split_ifs <;> simp
    · rw [scan, hscan]
      split_ifs <;> rfl

theorem Sound.scan (h : r.Sound b) (text : String) : (r.scan b text).Sound b := by
  rcases scan_cases h text with ⟨start, stop, -, hstart, hstop, hle, hscan⟩ | ⟨-, hscan⟩
  · rw [hscan]
    exact h.take hstart hstop hle
  · rwa [hscan]

theorem Sound.goesOn_scan (h : r.Sound b) (text : String) : r.GoesOn (r.scan b text) := by
  rcases scan_cases h text with ⟨start, stop, -, hstart, hstop, -, hscan⟩ | ⟨-, hscan⟩
  · rw [hscan]
    exact ⟨hstart.trans hstop, List.prefix_append _ _⟩
  · rw [hscan]
    exact .refl r

theorem Sound.drain_eq (h : r.Sound b) :
    r.drain b = ⟨⟨b.length⟩, r.taken ++ [(r.cursor.position, b.length)]⟩ := by
  have hle := h.le
  simp only [drain, Cursor.drain, Cursor.length_unreadBytes, Nat.add_sub_cancel' hle]

theorem Sound.drain (h : r.Sound b) : (r.drain b).Sound b := by
  rw [h.drain_eq]
  exact h.take le_rfl h.le le_rfl

theorem Sound.goesOn_drain (h : r.Sound b) : r.GoesOn (r.drain b) := by
  rw [h.drain_eq]
  exact ⟨h.le, List.prefix_append _ _⟩

theorem Sound.isExhausted_iff (h : r.Sound b) :
    r.cursor.isExhausted b = true ↔ b.closed = true ∧ r.cursor.position = b.length := by
  have hle := h.le
  rw [Cursor.isExhausted, Bool.and_eq_true, List.isEmpty_iff, ← List.length_eq_zero_iff,
    Cursor.length_unreadBytes]
  exact and_congr_right fun _ => by omega

end Reader

/-! ## All readers -/

/-- What happens to a stream and its readers. -/
inductive Readers.Move
  | append (piece : List UInt8)
  | close
  | create
  | clone (i : Nat)
  | scan (i : Nat) (text : String)
  | drain (i : Nat)
  deriving DecidableEq, Repr

/-- A stream and its readers, in the order in which they were made. -/
structure Readers where
  buffer : Buffer := {}
  all : List Reader := []
  deriving Repr

namespace Readers

/-- A clone begins where its original stands, and with what that has taken. A move of a reader
that there is not does nothing. -/
def step (s : Readers) : Move → Readers
  | .append piece => { s with buffer := s.buffer.append piece }
  | .close => { s with buffer := s.buffer.close }
  | .create => { s with all := s.all ++ [{}] }
  | .clone i => { s with all := s.all ++ s.all[i]?.toList }
  | .scan i text => { s with all := s.all.modify i fun r => r.scan s.buffer text }
  | .drain i => { s with all := s.all.modify i fun r => r.drain s.buffer }

def run (s : Readers) (moves : List Move) : Readers :=
  moves.foldl step s

def appended : List Move → List UInt8
  | [] => []
  | .append piece :: rest => piece ++ appended rest
  | _ :: rest => appended rest

def Sound (s : Readers) : Prop := ∀ r ∈ s.all, r.Sound s.buffer

def GoOn (s next : Readers) : Prop :=
  ∀ (i : Nat) (r : Reader), s.all[i]? = some r → ∃ r', next.all[i]? = some r' ∧ r.GoesOn r'

variable {s next last : Readers}

theorem GoOn.refl (s : Readers) : s.GoOn s := fun _ r h => ⟨r, h, .refl r⟩

theorem GoOn.trans (h : s.GoOn next) (hnext : next.GoOn last) : s.GoOn last := by
  intro i r hr
  obtain ⟨r', hr', hon⟩ := h i r hr
  obtain ⟨r'', hr'', hon'⟩ := hnext i r' hr'
  exact ⟨r'', hr'', hon.trans hon'⟩

theorem goOn_append (b : Buffer) (more : List Reader) : s.GoOn ⟨b, s.all ++ more⟩ := by
  intro i r hr
  obtain ⟨hi, -⟩ := List.getElem?_eq_some_iff.1 hr
  exact ⟨r, by rw [List.getElem?_append_left hi, hr], .refl r⟩

/-- A move of one reader is all that happens if it keeps that reader sound and lets it go on. -/
theorem Sound.modify (h : s.Sound) (i : Nat) {f : Reader → Reader}
    (hsound : ∀ r : Reader, r.Sound s.buffer → (f r).Sound s.buffer)
    (hon : ∀ r : Reader, r.Sound s.buffer → r.GoesOn (f r)) :
    ({ s with all := s.all.modify i f } : Readers).Sound ∧
      s.GoOn { s with all := s.all.modify i f } := by
  constructor
  · intro r hr
    obtain ⟨j, hj⟩ := List.mem_iff_getElem?.1 hr
    rw [List.getElem?_modify, Option.map_eq_map, Option.map_eq_some_iff] at hj
    obtain ⟨r', hr', rfl⟩ := hj
    have hr' := h r' (List.mem_of_getElem? hr')
    split_ifs
    · exact hsound r' hr'
    · exact hr'
  · intro j r hr
    refine ⟨_, by rw [List.getElem?_modify, hr, Option.map_eq_map, Option.map_some], ?_⟩
    split_ifs
    · exact hon r (h r (List.mem_of_getElem? hr))
    · exact .refl r

/-- A move keeps readers sound and lets them go on. -/
theorem Sound.step (h : s.Sound) (move : Move) : (s.step move).Sound ∧ s.GoOn (s.step move) := by
  cases move with
  | append piece =>
    have hlength : s.buffer.length ≤ (s.buffer.append piece).length := by
      rw [Buffer.length_append]
      exact Nat.le_add_right _ _
    exact ⟨fun r hr => (h r hr).mono hlength, GoOn.refl s⟩
  | close => exact ⟨fun r hr => (h r hr).mono le_rfl, GoOn.refl s⟩
  | create =>
    refine ⟨fun r hr => ?_, goOn_append _ _⟩
    rcases List.mem_append.1 hr with hr | hr
    · exact h r hr
    · obtain rfl := List.mem_singleton.1 hr
      exact ⟨trivial, rfl, Nat.zero_le _⟩
  | clone i =>
    refine ⟨fun r hr => ?_, goOn_append _ _⟩
    rcases List.mem_append.1 hr with hr | hr
    · exact h r hr
    · exact h r (List.mem_of_getElem? (Option.mem_toList.1 hr))
  | scan i text =>
    exact h.modify i (fun r hr => hr.scan text) fun r hr => hr.goesOn_scan text
  | drain i => exact h.modify i (fun r hr => hr.drain) fun r hr => hr.goesOn_drain

theorem Sound.run (h : s.Sound) (moves : List Move) :
    (s.run moves).Sound ∧ s.GoOn (s.run moves) := by
  induction moves generalizing s with
  | nil => exact ⟨h, .refl s⟩
  | cons move rest ih =>
    obtain ⟨hsound, hon⟩ := h.step move
    obtain ⟨hrun, hgoOn⟩ := ih hsound
    exact ⟨hrun, hon.trans hgoOn⟩

theorem run_bytes (s : Readers) (moves : List Move) :
    (s.run moves).buffer.bytes = s.buffer.bytes ++ appended moves := by
  induction moves generalizing s with
  | nil => simp [Readers.run, appended]
  | cons move rest ih =>
    change ((s.step move).run rest).buffer.bytes = _
    rw [ih]
    cases move <;> simp [Readers.step, appended]

theorem run_closed (s : Readers) (moves : List Move) :
    (s.run moves).buffer.closed = true ↔ s.buffer.closed = true ∨ .close ∈ moves := by
  induction moves generalizing s with
  | nil => simp [Readers.run]
  | cons move rest ih =>
    change ((s.step move).run rest).buffer.closed = true ↔ _
    rw [ih]
    cases move <;> simp [Readers.step, Buffer.append, Buffer.close]

/-- Whatever happens to a stream and its readers, one after the other: the stream holds just what
was appended, and is closed just if it has been. Every reader stands within it, has taken ranges
that follow each other and are with the gaps between them all that is in front of it, and finds a
text behind its place only; if it finds none it stays as it is. It is at the end just if the stream
is closed and all of it is taken. Whatever happens further, it goes on from there. -/
theorem readers_go_forward (moves : List Move) :
    let s := Readers.run {} moves
    s.buffer.bytes = appended moves ∧ (s.buffer.closed = true ↔ .close ∈ moves) ∧
    (∀ r ∈ s.all,
      r.cursor.position ≤ s.buffer.length ∧
      (∀ range ∈ r.taken, range.1 ≤ range.2) ∧
      r.taken.Pairwise (fun range later => range.2 ≤ later.1) ∧
      (Range.withGaps 0 r.taken).flatMap (Range.bytes s.buffer.bytes) =
        s.buffer.bytes.take r.cursor.position ∧
      (r.cursor.isExhausted s.buffer = true ↔
        s.buffer.closed = true ∧ r.cursor.position = s.buffer.length)) ∧
    (∀ (i : Nat) (r : Reader), s.all[i]? = some r →
      (∀ text start stop, (r.cursor.scan s.buffer text).1 = .found start stop →
        r.cursor.position ≤ start ∧ start ≤ stop ∧ stop ≤ s.buffer.length ∧
        (s.step (.scan i text)).all[i]? = some ⟨⟨stop⟩, r.taken ++ [(start, stop)]⟩) ∧
      (∀ text, (∀ start stop, (r.cursor.scan s.buffer text).1 ≠ .found start stop) →
        (s.step (.scan i text)).all[i]? = some r) ∧
      (s.step (.drain i)).all[i]? =
        some ⟨⟨s.buffer.length⟩, r.taken ++ [(r.cursor.position, s.buffer.length)]⟩) ∧
    ∀ further, s.buffer.bytes <+: (s.run further).buffer.bytes ∧
      (s.buffer.closed = true → (s.run further).buffer.closed = true) ∧
      ∀ (i : Nat) (r : Reader), s.all[i]? = some r → ∃ r', (s.run further).all[i]? = some r' ∧
        r.cursor.position ≤ r'.cursor.position ∧ r.taken <+: r'.taken := by
  intro s
  have hstart : Sound {} := by simp [Sound]
  have hsound : s.Sound := (hstart.run moves).1
  refine ⟨by simpa using run_bytes {} moves, by simpa using run_closed {} moves,
    fun r hr => ?_, fun i r hr => ?_, fun further => ?_⟩
  · have h := hsound r hr
    have hcover : Range.bytes s.buffer.bytes (0, Range.lastEnd 0 r.taken) =
        s.buffer.bytes.take r.cursor.position := by
      rw [h.position]
      rfl
    exact ⟨h.le, fun range hrange => (h.ordered.forall_le range hrange).2, h.ordered.pairwise,
      (h.ordered.flatMap_withGaps _).trans hcover, h.isExhausted_iff⟩
  · have h := hsound r (List.mem_of_getElem? hr)
    have hscan : ∀ text, (s.step (.scan i text)).all[i]? = some (r.scan s.buffer text) := by
      intro text
      simp [Readers.step, hr]
    refine ⟨fun text start stop hfound => ?_, fun text hnot => ?_, ?_⟩
    · rcases Reader.scan_cases h text with ⟨start', stop', hfound', hrange⟩ | ⟨hnot, -⟩
      · obtain ⟨rfl, rfl⟩ := Scan.found.inj (hfound.symm.trans hfound')
        exact ⟨hrange.1, hrange.2.1, hrange.2.2.1, by rw [hscan, hrange.2.2.2]⟩
      · exact absurd hfound (hnot start stop)
    · rcases Reader.scan_cases h text with ⟨start, stop, hfound, -⟩ | ⟨-, hsame⟩
      · exact absurd hfound (hnot start stop)
      · rw [hscan, hsame]
    · simp [Readers.step, hr, h.drain_eq]
  · refine ⟨?_, fun hclosed => (run_closed s further).2 (.inl hclosed), fun i r hr => ?_⟩
    · rw [run_bytes s further]
      exact List.prefix_append _ _
    · obtain ⟨r', hr', hon⟩ := (hsound.run further).2 i r hr
      exact ⟨r', hr', hon.position, hon.taken⟩

/-- A text that is found behind a line end of two bytes, a clone from there, and what each of the
two takes further. -/
example :
    (Readers.run {} [.create, .append [97, 13, 10, 98], .scan 0 "\nb", .clone 0, .append [99, 100],
      .drain 0, .close, .scan 1 "d", .scan 1 "d"]).all.map (·.taken) =
      [[(1, 4), (4, 6)], [(1, 4), (5, 6)]] := by
  decide

end Readers
end DaemonDialogue
