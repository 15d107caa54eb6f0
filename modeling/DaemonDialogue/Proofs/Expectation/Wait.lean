import DaemonDialogue.Expectation.Polling
import DaemonDialogue.Expectation.Wait
import DaemonDialogue.Proofs.Stream.Search
import Mathlib.Tactic

/-!
# What polls and waits keep

A poll ends with a look that sees something, or after looks that all saw nothing. What
holds whenever it looks, and what holds behind a look that saw nothing, is kept over the
whole poll if every look, every pause and every sleep keeps it.

A wait lets time pass and moves its cursor only by what it finds. What both of these keep holds
behind it, however it ends. A look that does not decide the wait has seen a stream that is open and
does not have the text; one that finds the text reports what its scan has found.
-/

namespace DaemonDialogue.Polling

variable {σ α : Type} {world : Surroundings σ} {look : σ → Option α × σ} {interval : Span}

/-- What is kept by the steps of a poll: `Before` holds whenever it looks, and `Behind` behind
every look that saw nothing. -/
structure Keeps (world : Surroundings σ) (look : σ → Option α × σ) (interval : Span)
    (Before Behind : σ → Prop) : Prop where
  before : ∀ s, Behind s → Before s
  look : ∀ s next, Before s → look s = (none, next) → Behind next
  pause : ∀ s, Behind s → Behind (world.pause s)
  sleep : ∀ s, Behind s → Behind (world.sleep interval s)

/-- How a poll has ended: with a look that saw something, or behind looks that saw nothing. -/
def Ended (look : σ → Option α × σ) (Before Behind : σ → Prop) : Option α × σ → Prop
  | (some a, next) => ∃ s, Before s ∧ look s = (some a, next)
  | (none, next) => Behind next

variable {Before Behind : σ → Prop}

/-- A look that saw nothing ends the poll or leaves it to the looks behind it. -/
theorem Keeps.run_succ (h : Keeps world look interval Before Behind) {deadline fuel : Nat}
    (hrest : ∀ s, Behind s → Ended look Before Behind (run world look interval deadline fuel s))
    {s : σ} (hs : Before s) :
    Ended look Before Behind (run world look interval deadline (fuel + 1) s) := by
  rw [run]
  rcases hlook : look s with ⟨_ | a, next⟩
  · have hnext := h.pause _ (h.look s next hs hlook)
    dsimp only
    split_ifs
    · exact hnext
    · exact hrest _ (h.sleep _ hnext)
  · exact ⟨s, hs, hlook⟩

theorem Keeps.run (h : Keeps world look interval Before Behind) (deadline fuel : Nat) {s : σ}
    (hs : Before s) :
    Ended look Before Behind (run world look interval deadline (fuel + 1) s) := by
  induction fuel generalizing s with
  | zero =>
    refine h.run_succ ?_ hs
    intro s hs
    exact hs
  | succ fuel ih => exact h.run_succ (fun s hs => ih (h.before s hs)) hs

theorem Keeps.poll (h : Keeps world look interval Before Behind) (timeout : Span) {s : σ}
    (hs : Before (world.pause s)) :
    Ended look Before Behind (poll world look timeout interval s) :=
  h.run _ _ hs

/-- What every look keeps, whatever it sees, and the passing of time does, is kept by a poll. -/
theorem poll_keeps {P : σ → Prop} (hlook : ∀ s, P s → P (look s).2)
    (hpause : ∀ s, P s → P (world.pause s)) (hsleep : ∀ s, P s → P (world.sleep interval s))
    (timeout : Span) {s : σ} (hs : P s) : P (poll world look timeout interval s).2 := by
  have hkeeps : Keeps world look interval P P := by
    refine ⟨fun _ h => h, fun s next h hnext => ?_, hpause, hsleep⟩
    have hkept := hlook s h
    rwa [hnext] at hkept
  have hend := hkeeps.poll timeout (hpause s hs)
  rcases hpoll : Polling.poll world look timeout interval s with ⟨_ | a, next⟩
  all_goals rw [hpoll] at hend
  · exact hend
  · obtain ⟨last, hlast, hseen⟩ := hend
    have hkept := hlook last hlast
    rwa [hseen] at hkept

end DaemonDialogue.Polling

namespace DaemonDialogue.Match

variable {σ : Type} {world : Surroundings σ} {stream : σ → Buffer} {channel : Channel}
  {timeout interval : Span} {s : σ}

theorem awaitPattern_keeps {P : σ → Prop} (hpause : ∀ s, P s → P (world.pause s))
    (hsleep : ∀ s, P s → P (world.sleep interval s)) (p : Pattern) (hs : P s) :
    P (awaitPattern world stream channel p timeout interval s).2 := by
  have hpoll : P (Polling.poll (world.beside _) (lookMatch world stream channel p.matcher) timeout
      interval ([], s)).2.2 :=
    Polling.poll_keeps (P := fun q : List Glimpse × σ => P q.2) (fun _ h => hpause _ h)
      (fun _ h => hpause _ h) (fun _ h => hsleep _ h) timeout hs
  unfold awaitPattern watchPattern
  dsimp only
  split
  all_goals
    next hresult =>
    rwa [hresult] at hpoll

/-- A look that decides nothing has seen an open stream without the text, and keeps only that. -/
theorem missing_of_lookLiteral {text : String} {q next : (List Buffer × Cursor) × σ}
    (h : lookLiteral world stream channel text q = (none, next)) :
    next = ((stream q.2 :: q.1.1, q.1.2), q.2) ∧ (stream q.2).closed = false ∧
      Cursor.findRange? (Utf8.encode text) (q.1.2.unreadBytes (stream q.2)) = none := by
  obtain ⟨⟨seen, c⟩, s⟩ := q
  rcases c.scan_cases (stream s) text with ⟨start, stop, -, hscan⟩ | ⟨hnone, hscan⟩
  · simp [lookLiteral, hscan] at h
  · cases hclosed : (stream s).closed with
    | true => simp [lookLiteral, hscan, hclosed] at h
    | false =>
      obtain rfl : ((stream s :: seen, c), s) = next := by
        simpa [lookLiteral, hscan, hclosed] using h
      exact ⟨rfl, rfl, hnone⟩

/-- A look that finds the text reports the range of its scan, and the text there a moment later. -/
theorem found_of_lookLiteral {text : String} {found : Match} {q next : (List Buffer × Cursor) × σ}
    (h : lookLiteral world stream channel text q = (some (.ok found), next)) :
    next.1.1 = stream q.2 :: q.1.1 ∧ next.2 = world.pause q.2 ∧
      q.1.2.scan (stream q.2) text = (.found found.start found.stop, next.1.2) ∧
      found.text = (stream next.2).textBetween found.start found.stop := by
  obtain ⟨⟨seen, c⟩, s⟩ := q
  rcases hscan : c.scan (stream s) text with ⟨⟨start, stop⟩ | _ | _, cursor⟩
  · simp only [lookLiteral, hscan, Prod.mk.injEq, Option.some.injEq, Except.ok.injEq] at h
    obtain ⟨rfl, rfl⟩ := h
    exact ⟨rfl, rfl, rfl, rfl⟩
  · simp [lookLiteral, hscan] at h
  · simp [lookLiteral, hscan] at h

theorem lookLiteral_keeps {P : Cursor → σ → Prop} {text : String} (channel : Channel)
    (hpause : ∀ c s, P c s → P c (world.pause s))
    (hscan : ∀ c s, P c s → P (c.scan (stream s) text).2 s) {q : (List Buffer × Cursor) × σ}
    (hq : P q.1.2 q.2) :
    P (lookLiteral world stream channel text q).2.1.2
      (lookLiteral world stream channel text q).2.2 := by
  obtain ⟨⟨seen, c⟩, s⟩ := q
  have hnext := hscan c s hq
  unfold lookLiteral
  dsimp only
  rcases hfound : c.scan (stream s) text with ⟨⟨start, stop⟩ | _ | _, next⟩
  all_goals rw [hfound] at hnext
  · exact hpause _ _ hnext
  · exact hnext
  · exact hpause _ _ hnext

theorem awaitLiteral_keeps {P : Cursor → σ → Prop} (channel : Channel) (timeout : Span)
    {text : String} (hpause : ∀ c s, P c s → P c (world.pause s))
    (hsleep : ∀ c s, P c s → P c (world.sleep interval s))
    (hscan : ∀ c s, P c s → P (c.scan (stream s) text).2 s) {c : Cursor} (hs : P c s) :
    P (awaitLiteral world stream channel text timeout interval c s).2.1
      (awaitLiteral world stream channel text timeout interval c s).2.2 := by
  have hpoll : P (Polling.poll (world.beside _) (lookLiteral world stream channel text) timeout
      interval (([], c), s)).2.1.2 (Polling.poll (world.beside _)
        (lookLiteral world stream channel text) timeout interval (([], c), s)).2.2 :=
    Polling.poll_keeps (P := fun q : (List Buffer × Cursor) × σ => P q.1.2 q.2)
      (fun _ h => lookLiteral_keeps channel hpause hscan h) (fun _ h => hpause _ _ h)
      (fun _ h => hsleep _ _ h) timeout hs
  unfold awaitLiteral watchLiteral
  dsimp only
  split
  · next hresult =>
    rwa [hresult] at hpoll
  · next hresult =>
    rw [hresult] at hpoll
    exact hpause _ _ hpoll

/-- A wait for a text that a stream does not show, and never will, fails at its first look. -/
theorem awaitLiteral_closed {b : Buffer} {text : String} {c : Cursor}
    (hpause : ∀ s, stream s = b → stream (world.pause s) = b) (hclosed : b.closed = true)
    (hnone : Cursor.findRange? (Utf8.encode text) (c.unreadBytes b) = none) (hs : stream s = b) :
    awaitLiteral world stream channel text timeout interval c s =
      (.error (.streamClosed channel text b.snapshot), c, world.pause (world.pause s)) := by
  have hscan : c.scan b text = (.closed, c) := by
    simp [Cursor.scan, hnone, hclosed]
  have hfirst := hpause s hs
  have hsecond := hpause _ hfirst
  simp [awaitLiteral, watchLiteral, Polling.poll, Polling.looks, Polling.run, lookLiteral,
    Surroundings.beside, hfirst, hsecond, hscan]

end DaemonDialogue.Match
