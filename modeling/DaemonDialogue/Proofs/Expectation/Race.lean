import DaemonDialogue.Expectation.Wait
import DaemonDialogue.Proofs.Expectation.Wait
import DaemonDialogue.Proofs.Stream.Writer

/-!
# Waiting while others write

A wait and the writer of the stream run side by side: between any two steps of the wait the
writer may do any number of steps, and any time may pass. A wait that reports the end of the
stream has seen all that was ever written, and one that reports a match has seen it.
-/

namespace DaemonDialogue.Match

/-- What others do between two steps of a wait: some steps of the writer, for some time. -/
structure Gap where
  steps : Nat
  nanos : Nat
  deriving DecidableEq, Repr

/-- A writer beside a wait, the clock, and the gaps between the steps of the wait to come. -/
structure Race where
  writer : Writer
  clock : Nat := 0
  gaps : Nat → Gap

namespace Race

def pass (r : Race) : Race where
  writer := r.writer.run (r.gaps 0).steps
  clock := r.clock + (r.gaps 0).nanos
  gaps n := r.gaps (n + 1)

/-- A sleep is a gap that lasts at least as long as the sleep, and never no time at all. -/
def world : Surroundings Race where
  now := clock
  sleep span r := { r.pass with clock := r.pass.clock + max span.nanos 1 }
  pause := pass

def stream (r : Race) : Buffer := r.writer.buffer

end Race

/-- A stream at some moment of the work of a writer with these pieces. -/
def Moment (pieces : List (List UInt8)) (b : Buffer) : Prop :=
  ∃ n, b = (Writer.run { pieces } n).buffer

/-- What a wait for a match says about all that is written: it looked at the stream as it was at
some moments; a match is one in what it saw; the end is reported with the whole text, in which
there is none; and it gives up behind a look at a stream that was open, which showed none. -/
def Honest (m : Matcher) (pieces : List (List UInt8)) (w : Wait Glimpse Race) : Prop :=
  (∀ g ∈ w.seen, ∃ b, Moment pieces b ∧ g.history = b.snapshot) ∧
  match w.result with
  | .ok found => ∃ g ∈ w.seen, m.find? g.history = some (found.start, found.stop, found.text)
  | .error (.streamClosed _ _ actual) =>
    actual = Utf8.decode pieces.flatten ∧ m.find? actual = none
  | .error (.expectTimeout _ _ actual _) =>
    w.seen.head? = some ⟨false, actual⟩ ∧ m.find? actual = none
  | .error _ => False

/-- Does a text occur in some bytes, line ends of either kind alike? -/
def OccursIn (text : String) (bytes : List UInt8) : Prop :=
  Newline.normalize (Utf8.encode text) <:+: Newline.normalize bytes

/-- What a wait for a text says about all that is written behind its cursor: it looked at the
stream as it was at some moments; a match is what its last look found; the end is reported only
if the text does not occur at all; it gives up behind a look at a stream that was open and did
not show the text; and the cursor stays where it is unless there is a match. -/
def HonestLiteral (text : String) (pieces : List (List UInt8)) (c : Cursor)
    (w : Wait Buffer (Cursor × Race)) : Prop :=
  (∀ b ∈ w.seen, Moment pieces b) ∧
  match w.result with
  | .ok found => ∃ b, w.seen.head? = some b ∧
    c.scan b text = (.found found.start found.stop, w.state.1) ∧
    found.text = b.textBetween found.start found.stop
  | .error (.streamClosed _ _ actual) =>
    actual = Utf8.decode pieces.flatten ∧ w.state.1 = c ∧
    ¬OccursIn text (pieces.flatten.drop c.position)
  | .error (.expectTimeout _ _ _ _) =>
    w.state.1 = c ∧ ∃ b, w.seen.head? = some b ∧ b.closed = false ∧
    ¬OccursIn text (c.unreadBytes b)
  | .error _ => False

variable {pieces : List (List UInt8)}

/-- A race in which the writer has written some of its pieces, and perhaps closed the stream. -/
def Race.Of (pieces : List (List UInt8)) (r : Race) : Prop :=
  ∃ n, r.writer = Writer.run { pieces } n

theorem Race.Of.pass {r : Race} (h : r.Of pieces) : r.pass.Of pieces := by
  obtain ⟨n, hn⟩ := h
  exact ⟨n + (r.gaps 0).steps, by rw [Race.pass, hn, Writer.run_add]⟩

theorem Race.Of.moment {r : Race} (h : r.Of pieces) : Moment pieces r.stream := by
  obtain ⟨n, hn⟩ := h
  exact ⟨n, by rw [Race.stream, hn]⟩

theorem Race.Of.sound {r : Race} (h : r.Of pieces) : r.writer.Sound := by
  obtain ⟨n, hn⟩ := h
  rw [hn]
  exact Writer.Sound.run (by simp [Writer.Sound]) n

theorem Race.Of.whole {r : Race} (h : r.Of pieces) : r.writer.whole = pieces.flatten := by
  obtain ⟨n, hn⟩ := h
  rw [hn, Writer.whole_run]
  simp [Writer.whole]

/-- Once the stream is closed it holds everything, then and in every later gap. -/
theorem Race.Of.bytes_of_closed {r : Race} (h : r.Of pieces) (hclosed : r.stream.closed = true) :
    r.stream.bytes = pieces.flatten := by
  rw [← h.whole]
  exact h.sound.bytes_eq_whole hclosed

theorem Race.pass_closed {r : Race} (h : r.stream.closed = true) : r.pass.stream.closed = true :=
  Writer.closed_run h _

theorem Race.bytes_prefix_pass (r : Race) : r.stream.bytes <+: r.pass.stream.bytes :=
  r.writer.bytes_prefix_run _

/-! ## Waiting for a pattern -/

/-- What holds whenever a wait for a match looks. -/
structure Watching (pieces : List (List UInt8)) (p : List Glimpse × Race) : Prop where
  race : p.2.Of pieces
  seen : ∀ g ∈ p.1, ∃ b, Moment pieces b ∧ g.history = b.snapshot

/-- What holds behind a look that showed no match while the stream was open. -/
structure Missed (m : Matcher) (pieces : List (List UInt8)) (p : List Glimpse × Race) : Prop
    extends Watching pieces p where
  last : ∃ history, p.1.head? = some ⟨false, history⟩ ∧ m.find? history = none

theorem Watching.look {p : List Glimpse × Race} (h : Watching pieces p) (channel : Channel)
    (m : Matcher) :
    Watching pieces (lookMatch Race.world Race.stream channel m p).2 := by
  refine ⟨h.race.pass, ?_⟩
  intro g hg
  rcases List.mem_cons.1 hg with rfl | hg
  · exact ⟨_, h.race.pass.moment, rfl⟩
  · exact h.seen g hg

theorem missed_of_look {channel : Channel} {m : Matcher} {p next : List Glimpse × Race}
    (h : Watching pieces p)
    (hlook : lookMatch Race.world Race.stream channel m p = (none, next)) :
    Missed m pieces next := by
  obtain ⟨hresult, rfl⟩ := Prod.ext_iff.1 hlook
  refine ⟨h.look channel m, ?_⟩
  simp only [lookMatch, lookPattern] at hresult ⊢
  split at hresult
  · simp at hresult
  · next hnone =>
    split_ifs at hresult with hended
    refine ⟨_, ?_, hnone⟩
    rw [← Bool.eq_false_of_not_eq_true hended]
    rfl

theorem keeps_lookMatch (channel : Channel) (m : Matcher) (interval : Span) :
    Polling.Keeps (Race.world.beside _) (lookMatch Race.world Race.stream channel m) interval
      (Watching pieces) (Missed m pieces) where
  before _ h := h.toWatching
  look _ _ h hlook := missed_of_look h hlook
  pause _ h := ⟨⟨h.race.pass, h.seen⟩, h.last⟩
  sleep _ h := ⟨⟨h.race.pass, h.seen⟩, h.last⟩

/-- A look that decides a wait reports what it saw, and the end only with the whole text. -/
theorem honest_of_look {channel : Channel} {m : Matcher} {p : List Glimpse × Race}
    {result : Except Failure Match} {seen : List Glimpse} {r : Race} (h : Watching pieces p)
    (hlook : lookMatch Race.world Race.stream channel m p = (some result, seen, r)) :
    Honest m pieces ⟨result, seen, r⟩ := by
  obtain ⟨hresult, hseen⟩ := Prod.ext_iff.1 hlook
  obtain ⟨rfl, rfl⟩ := Prod.ext_iff.1 hseen
  refine ⟨(h.look channel m).seen, ?_⟩
  simp only [lookMatch, lookPattern] at hresult
  split at hresult
  · next start stop text hfound =>
    obtain rfl := Option.some.inj hresult
    exact ⟨_, List.mem_cons_self, hfound⟩
  · next hnone =>
    split_ifs at hresult with hended
    obtain rfl := Option.some.inj hresult
    -- The flag was set before the text was taken, so nothing was written in between.
    refine ⟨?_, hnone⟩
    exact congrArg Utf8.decode (h.race.pass.bytes_of_closed (Race.pass_closed hended))

theorem watchPattern_honest (pieces : List (List UInt8)) (clock : Nat) (gaps : Nat → Gap)
    (channel : Channel) (m : Matcher) (timeout interval : Span) :
    Honest m pieces (watchPattern Race.world Race.stream channel m timeout interval
      ⟨{ pieces }, clock, gaps⟩) := by
  have hstart : Watching pieces ([], Race.pass ⟨{ pieces }, clock, gaps⟩) :=
    ⟨Race.Of.pass ⟨0, rfl⟩, by simp⟩
  have hend := (keeps_lookMatch channel m interval).poll timeout
    (s := ([], (⟨{ pieces }, clock, gaps⟩ : Race))) hstart
  unfold watchPattern
  dsimp only
  rcases hpoll : Polling.poll (Race.world.beside _) (lookMatch Race.world Race.stream channel m)
    timeout interval ([], ⟨{ pieces }, clock, gaps⟩) with ⟨_ | result, seen, r⟩
  · rw [hpoll] at hend
    obtain ⟨history, hhead, hnone⟩ := hend.last
    refine ⟨hend.seen, ?_⟩
    simp only [hhead, Option.map_some, Option.getD_some]
    exact ⟨trivial, hnone⟩
  · rw [hpoll] at hend
    obtain ⟨p, hp, hlook⟩ := hend
    exact honest_of_look hp hlook

/-! ## Waiting for a text -/

/-- What holds whenever a wait for a text looks: the cursor is where it was. -/
structure WatchingText (pieces : List (List UInt8)) (c : Cursor)
    (p : (List Buffer × Cursor) × Race) : Prop where
  race : p.2.Of pieces
  seen : ∀ b ∈ p.1.1, Moment pieces b
  cursor : p.1.2 = c

/-- What holds behind a look that did not show the text while the stream was open. -/
structure MissedText (text : String) (pieces : List (List UInt8)) (c : Cursor)
    (p : (List Buffer × Cursor) × Race) : Prop extends WatchingText pieces c p where
  last : ∃ b, p.1.1.head? = some b ∧ b.closed = false ∧ ¬OccursIn text (c.unreadBytes b)

variable {channel : Channel} {text : String} {c : Cursor}

theorem WatchingText.seen_cons {p : (List Buffer × Cursor) × Race} (h : WatchingText pieces c p) :
    ∀ b ∈ p.2.stream :: p.1.1, Moment pieces b := by
  intro b hb
  rcases List.mem_cons.1 hb with rfl | hb
  · exact h.race.moment
  · exact h.seen b hb

theorem missedText_of_look {p next : (List Buffer × Cursor) × Race} (h : WatchingText pieces c p)
    (hlook : lookLiteral Race.world Race.stream channel text p = (none, next)) :
    MissedText text pieces c next := by
  obtain ⟨rfl, hclosed, hnone⟩ := missing_of_lookLiteral hlook
  rw [h.cursor] at hnone
  exact ⟨⟨h.race, h.seen_cons, h.cursor⟩, _, rfl, hclosed,
    (Cursor.findRange?_eq_none_iff _ _).1 hnone⟩

theorem keeps_lookLiteral (channel : Channel) (text : String) (c : Cursor) (interval : Span) :
    Polling.Keeps (Race.world.beside _) (lookLiteral Race.world Race.stream channel text) interval
      (WatchingText pieces c) (MissedText text pieces c) where
  before _ h := h.toWatchingText
  look _ _ h hlook := missedText_of_look h hlook
  pause _ h := ⟨⟨h.race.pass, h.seen, h.cursor⟩, h.last⟩
  sleep _ h := ⟨⟨h.race.pass, h.seen, h.cursor⟩, h.last⟩

/-- A look that decides a wait reports what it found, and the end only if the text is nowhere. -/
theorem honestLiteral_of_look {p : (List Buffer × Cursor) × Race} {result : Except Failure Match}
    {seen : List Buffer} {cursor : Cursor} {r : Race} (h : WatchingText pieces c p)
    (hlook : lookLiteral Race.world Race.stream channel text p = (some result, (seen, cursor), r)) :
    HonestLiteral text pieces c ⟨result, seen, cursor, r⟩ := by
  obtain ⟨⟨before, cursor'⟩, now⟩ := p
  obtain rfl : cursor' = c := h.cursor
  rcases cursor'.scan_cases now.stream text with ⟨start, stop, hrange, hscan⟩ | ⟨hnone, hscan⟩
  · simp only [lookLiteral, hscan, Prod.mk.injEq, Option.some.injEq] at hlook
    obtain ⟨rfl, ⟨rfl, rfl⟩, rfl⟩ := hlook
    refine ⟨h.seen_cons, _, rfl, hscan, ?_⟩
    exact Cursor.textBetween_mono (Race.bytes_prefix_pass now) hrange
  · cases hclosed : now.stream.closed with
    | false => simp [lookLiteral, hscan, hclosed] at hlook
    | true =>
      simp only [lookLiteral, hscan, hclosed, if_true, Prod.mk.injEq, Option.some.injEq] at hlook
      obtain ⟨rfl, ⟨rfl, rfl⟩, rfl⟩ := hlook
      have hnow := h.race.bytes_of_closed hclosed
      have hlater := h.race.pass.bytes_of_closed (Race.pass_closed hclosed)
      refine ⟨h.seen_cons, congrArg Utf8.decode hlater, rfl, ?_⟩
      rw [← hnow]
      exact (Cursor.findRange?_eq_none_iff _ _).1 hnone

theorem watchLiteral_honest (pieces : List (List UInt8)) (clock : Nat) (gaps : Nat → Gap)
    (channel : Channel) (text : String) (timeout interval : Span) (c : Cursor) :
    HonestLiteral text pieces c (watchLiteral Race.world Race.stream channel text timeout interval c
      ⟨{ pieces }, clock, gaps⟩) := by
  have hstart : WatchingText pieces c (([], c), Race.pass ⟨{ pieces }, clock, gaps⟩) :=
    ⟨Race.Of.pass ⟨0, rfl⟩, by simp, rfl⟩
  have hend := (keeps_lookLiteral channel text c interval).poll timeout
    (s := (([], c), (⟨{ pieces }, clock, gaps⟩ : Race))) hstart
  unfold watchLiteral
  dsimp only
  rcases hpoll : Polling.poll (Race.world.beside _)
    (lookLiteral Race.world Race.stream channel text) timeout interval
    (([], c), ⟨{ pieces }, clock, gaps⟩) with ⟨_ | result, ⟨seen, cursor⟩, r⟩
  · rw [hpoll] at hend
    exact ⟨hend.seen, hend.cursor, hend.last⟩
  · rw [hpoll] at hend
    obtain ⟨p, hp, hlook⟩ := hend
    exact honestLiteral_of_look hp hlook

/-- Whatever a writer does between the steps of a wait, and however time passes: a wait tells the
truth about what is written in all. -/
theorem wait_honest (pieces : List (List UInt8)) (clock : Nat) (gaps : Nat → Gap)
    (channel : Channel) (timeout interval : Span) :
    (∀ m, Honest m pieces (watchPattern Race.world Race.stream channel m timeout interval
      ⟨{ pieces }, clock, gaps⟩)) ∧
    ∀ text c, HonestLiteral text pieces c (watchLiteral Race.world Race.stream channel text timeout
      interval c ⟨{ pieces }, clock, gaps⟩) :=
  ⟨fun m => watchPattern_honest pieces clock gaps channel m timeout interval,
    fun text c => watchLiteral_honest pieces clock gaps channel text timeout interval c⟩

end DaemonDialogue.Match
