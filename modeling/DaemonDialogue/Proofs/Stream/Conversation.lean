import DaemonDialogue.Proofs.Stream.Search

/-!
# Conversations

A conversation waits for texts one after the other while output arrives piece by piece. What
it finds does not depend on how the output was cut or when it was looked at: it finds what
would be found, in the same order, in a buffer that has held the whole output from the start.
-/

namespace DaemonDialogue

/-- What happens in a conversation: output arrives, the stream ends, or the next text is
looked for. -/
inductive Move
  | arrive (piece : List UInt8)
  | close
  | look
  deriving DecidableEq, Repr

/-- A buffer, a cursor in it, the texts still to come and the ranges of those found. -/
structure Conversation where
  buffer : Buffer := {}
  cursor : Cursor := {}
  awaited : List String
  found : List (Nat × Nat) := []
  deriving Repr

namespace Conversation

/-- A look goes on to the next text only if it finds the one that is awaited. -/
def look (s : Conversation) : Conversation :=
  match s.awaited with
  | [] => s
  | text :: rest =>
    match s.cursor.scan s.buffer text with
    | (.found start stop, cursor) =>
      { s with cursor, awaited := rest, found := s.found ++ [(start, stop)] }
    | (_, cursor) => { s with cursor }

def step (s : Conversation) : Move → Conversation
  | .arrive piece => { s with buffer := s.buffer.append piece }
  | .close => { s with buffer := s.buffer.close }
  | .look => s.look

def run (s : Conversation) (moves : List Move) : Conversation :=
  moves.foldl step s

def arrived : List Move → List UInt8
  | [] => []
  | .arrive piece :: rest => piece ++ arrived rest
  | _ :: rest => arrived rest

/-- The ranges of texts that are looked for one after the other in a buffer that stays as it
is, up to the first that is not found. -/
def ranges (b : Buffer) (c : Cursor) : List String → List (Nat × Nat)
  | [] => []
  | text :: rest =>
    match c.scan b text with
    | (.found start stop, c) => (start, stop) :: ranges b c rest
    | _ => []

/-- What is found if the whole output is there before the first look. -/
def atOnce (output : List UInt8) (texts : List String) : List (Nat × Nat) :=
  ranges (Buffer.append {} output) {} texts

end Conversation

/-- More output does not change what was found, unless the text ends in a carriage return. -/
theorem Cursor.scan_mono {c next : Cursor} {b : Buffer} (whole : Buffer) {text : String}
    {start stop : Nat}
    (htext : (Newline.normalize (Utf8.encode text)).getLast? ≠ some Newline.carriageReturn)
    (hb : b.bytes <+: whole.bytes) (h : c.scan b text = (.found start stop, next)) :
    c.scan whole text = (.found start stop, next) := by
  rcases c.scan_cases b text with ⟨from_, to_, hrange, hscan⟩ | ⟨-, hscan⟩
  · have hwhole := findRange?_mono htext (hb.drop c.position) hrange
    rcases c.scan_cases whole text with ⟨from', to', hrange', hscan'⟩ | ⟨hrange', -⟩
    · obtain ⟨rfl, rfl⟩ := by simpa [unreadBytes] using hwhole.symm.trans hrange'
      rw [hscan', ← hscan, h]
    · exact absurd (hwhole.symm.trans hrange') (by simp)
  · rw [h] at hscan
    split_ifs at hscan <;> simp at hscan

namespace Conversation

/-- Does a text end in a carriage return that could be half of a line end? -/
def EndsOpen (text : String) : Prop :=
  (Newline.normalize (Utf8.encode text)).getLast? = some Newline.carriageReturn

instance (text : String) : Decidable (EndsOpen text) :=
  inferInstanceAs (Decidable (_ = _))

/-- What a conversation has found, and what it would go on to find if all output were there,
is what is found at once. -/
structure OnCourse (output : List UInt8) (texts : List String) (s : Conversation) : Prop where
  awaited : ∀ text ∈ s.awaited, ¬EndsOpen text
  found : atOnce output texts = s.found ++ ranges (Buffer.append {} output) s.cursor s.awaited

variable {output : List UInt8} {texts : List String} {s : Conversation}

theorem OnCourse.start (htexts : ∀ text ∈ texts, ¬EndsOpen text) :
    OnCourse output texts { awaited := texts } :=
  ⟨htexts, rfl⟩

/-- A look keeps a conversation on its course as long as the buffer holds a part of the output. -/
theorem OnCourse.look (hs : OnCourse output texts s) (hb : s.buffer.bytes <+: output) :
    OnCourse output texts s.look := by
  unfold Conversation.look
  split
  · exact hs
  · next text rest hawaited =>
    have htext : ¬EndsOpen text := hs.awaited text (by simp [hawaited])
    split
    · next start stop cursor hscan =>
      have hwhole := Cursor.scan_mono (Buffer.append {} output) htext
        (by simpa using hb) hscan
      refine ⟨fun t ht => hs.awaited t (by simp [hawaited, ht]), ?_⟩
      simp only [hs.found, hawaited, ranges, hwhole, List.append_assoc, List.singleton_append]
    · next result cursor hnot hscan =>
      have hcursor : cursor = s.cursor := by
        rcases s.cursor.scan_cases s.buffer text with ⟨start, stop, -, h⟩ | ⟨-, h⟩
        · exact absurd (Prod.ext_iff.1 (hscan.symm.trans h)).1 (hnot _ _)
        · exact (Prod.ext_iff.1 (hscan.symm.trans h)).2
      subst hcursor
      exact hs

@[simp] theorem look_buffer (s : Conversation) : s.look.buffer = s.buffer := by
  unfold Conversation.look
  split
  · rfl
  · split <;> rfl

theorem OnCourse.run (moves : List Move) (hs : OnCourse output texts s)
    (hb : s.buffer.bytes ++ arrived moves <+: output) :
    OnCourse output texts (s.run moves) := by
  induction moves generalizing s with
  | nil => exact hs
  | cons move rest ih =>
    cases move with
    | arrive piece =>
      exact ih (s := s.step (.arrive piece)) ⟨hs.awaited, hs.found⟩
        (by simpa [step, arrived] using hb)
    | close =>
      exact ih (s := s.step .close) ⟨hs.awaited, hs.found⟩ (by simpa [step, arrived] using hb)
    | look =>
      exact ih (s := s.step .look) (hs.look ((List.prefix_append _ _).trans hb))
        (by simpa [step, arrived] using hb)

theorem run_bytes (s : Conversation) (moves : List Move) :
    (s.run moves).buffer.bytes = s.buffer.bytes ++ arrived moves := by
  induction moves generalizing s with
  | nil => simp [Conversation.run, arrived]
  | cons move rest ih =>
    change ((s.step move).run rest).buffer.bytes = _
    rw [ih]
    cases move <;> simp [step, arrived]

/-- Once all output has arrived, a look finds what is found next at once. -/
theorem OnCourse.look_found (hs : OnCourse output texts s) (hb : s.buffer.bytes = output)
    {range : Nat × Nat} (hrange : (atOnce output texts)[s.found.length]? = some range) :
    s.look.found = s.found ++ [range] := by
  rw [hs.found, List.getElem?_append_right (Nat.le_refl _), Nat.sub_self] at hrange
  unfold Conversation.look
  cases hawaited : s.awaited with
  | nil => simp [hawaited, ranges] at hrange
  | cons text rest =>
    have htext : ¬EndsOpen text := hs.awaited text (by simp [hawaited])
    rw [hawaited, ranges] at hrange
    split at hrange
    · next start stop cursor hscan =>
      have hnow := Cursor.scan_mono s.buffer htext (by simp [hb]) hscan
      obtain rfl : (start, stop) = range := by simpa using hrange
      simp only [hnow]
    · simp at hrange

/-- What a conversation finds is what is found at once in the whole output, however the output
was cut and whenever it was looked at. What is not found at once is never found; and once all
output has arrived, a look finds the next text if it is found at once. -/
theorem found_eq_atOnce (output : List UInt8) (texts : List String) (moves : List Move)
    (htexts : ∀ text ∈ texts, ¬EndsOpen text) (hmoves : arrived moves <+: output) :
    let s := Conversation.run { awaited := texts } moves
    (∀ (i : Nat) (range : Nat × Nat), s.found[i]? = some range →
      (atOnce output texts)[i]? = some range) ∧
    (∀ i : Nat, (atOnce output texts)[i]? = none → s.found[i]? = none) ∧
    (arrived moves = output → ∀ range, (atOnce output texts)[s.found.length]? = some range →
      s.look.found = s.found ++ [range]) := by
  intro s
  have hs : OnCourse output texts s := (OnCourse.start htexts).run moves (by simpa using hmoves)
  have hcommon : ∀ (i : Nat) (range : Nat × Nat), s.found[i]? = some range →
      (atOnce output texts)[i]? = some range := by
    intro i range hi
    obtain ⟨hlt, -⟩ := List.getElem?_eq_some_iff.1 hi
    rw [hs.found, List.getElem?_append_left hlt, hi]
  refine ⟨hcommon, ?_, ?_⟩
  · intro i hi
    cases hf : s.found[i]? with
    | none => rfl
    | some range => exact absurd (hcommon i range hf) (by simp [hi])
  · intro hall range hrange
    have hbytes : s.buffer.bytes = output := by rw [run_bytes, hall]; rfl
    exact hs.look_found hbytes hrange

/-- The output `ok`, line end, `> 42`, line end, cut inside of the first line end and inside of
the number, with a look after each piece. -/
theorem found_eq_atOnce_cut_line_end :
    let output := [111, 107, 13, 10, 62, 32, 52, 50, 13, 10]
    let moves := [.arrive [111, 107, 13], .look, .arrive [10, 62, 32, 52], .look, .look,
      .arrive [50, 13, 10], .close, .look]
    (∀ text ∈ ["ok\n", "42\r\n"], ¬EndsOpen text) ∧ arrived moves <+: output ∧
      (Conversation.run { awaited := ["ok\n", "42\r\n"] } moves).found = [(0, 4), (6, 10)] ∧
      (atOnce output ["ok\n", "42\r\n"])[1]? = some (6, 10) := by
  refine ⟨by decide, by decide, by decide, ?_⟩
  exact (found_eq_atOnce _ _ [.arrive [111, 107, 13], .look, .arrive [10, 62, 32, 52], .look,
    .look, .arrive [50, 13, 10], .close, .look] (by decide) (by decide)).1 1 (6, 10) (by decide)

end Conversation
end DaemonDialogue
