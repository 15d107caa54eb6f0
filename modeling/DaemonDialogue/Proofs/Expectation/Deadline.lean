import DaemonDialogue.Proofs.Expectation.Wait
import DaemonDialogue.Trial.Basic
import Mathlib.Algebra.Order.Floor.Div
import Mathlib.Tactic

/-!
# Waits and their deadlines

A wait is a loop without a bound of its own: it looks, reads the clock, and sleeps until the
deadline is over. The clock alone ends it. Every sleep brings the clock nearer to the deadline, so
that only so many looks fit in; there is a look even if there is no time at all, and there is one
behind every sleep. What is said of the looks of a wait is said of those that it takes itself: the
same poll, with a look that notes where it looks, gives the list of them.
-/

namespace DaemonDialogue

/-- Does the clock never go back, and does it go on by a sleep for as long as that is to last? -/
structure Surroundings.Clocked {σ : Type} (world : Surroundings σ) : Prop where
  pause : ∀ s, world.now s ≤ world.now (world.pause s)
  sleep : ∀ span s, world.now s + span.nanos ≤ world.now (world.sleep span s)

theorem Surroundings.Clocked.beside {σ : Type} {world : Surroundings σ} (h : world.Clocked)
    (β : Type) : (world.beside β).Clocked where
  pause q := h.pause q.2
  sleep span q := h.sleep span q.2

namespace Polling

variable {σ α : Type}

/-- How a loop goes that has no bound but its deadline: the states in which it looks, one after
another, and how it ends. -/
inductive Goes (world : Surroundings σ) (look : σ → Option α × σ) (interval : Span)
    (deadline : Nat) : σ → List σ → Option α × σ → Prop
  | seen {s next : σ} {a : α} (hlook : look s = (some a, next)) :
    Goes world look interval deadline s [s] (some a, next)
  | late {s next : σ} (hlook : look s = (none, next))
    (hover : deadline ≤ world.now (world.pause next)) :
    Goes world look interval deadline s [s] (none, world.pause next)
  | again {s next : σ} {looked : List σ} {ending : Option α × σ} (hlook : look s = (none, next))
    (hopen : world.now (world.pause next) < deadline)
    (hrest : Goes world look interval deadline (world.sleep interval (world.pause next)) looked
      ending) :
    Goes world look interval deadline s (s :: looked) ending

/-- A look that notes the state in which it looks. -/
def noting (look : σ → Option α × σ) (q : List σ × σ) : Option α × List σ × σ :=
  ((look q.2).1, q.1 ++ [q.2], (look q.2).2)

/-- The states in which a poll looks, one after another. -/
def lookedIn (world : Surroundings σ) (look : σ → Option α × σ) (timeout interval : Span) (s : σ) :
    List σ :=
  (poll (world.beside (List σ)) (noting look) timeout interval ([], s)).2.1

def Succeeds (look : σ → Option α × σ) (won : α → Prop) (s : σ) : Prop :=
  ∃ a, (look s).1 = some a ∧ won a

/-- A poll from `s`, and what a wait makes of it: success, or giving up. To note the looks changes
nothing about the poll; it goes as the loop does, with at least one look and no more than fit in.
The wait succeeds just if one of these looks does, and that is the last one; and it gives up only
at the deadline, which the clock has reached behind a last look that saw nothing. -/
structure Timely (world : Surroundings σ) (look : σ → Option α × σ) (won : α → Prop)
    (timeout interval : Span) (s : σ) (success gaveUp : Prop) : Prop where
  noted : poll (world.beside (List σ)) (noting look) timeout interval ([], s) =
    ((poll world look timeout interval s).1, lookedIn world look timeout interval s,
      (poll world look timeout interval s).2)
  goes : Goes world look interval (world.now s + timeout.nanos) (world.pause s)
    (lookedIn world look timeout interval s) (poll world look timeout interval s)
  atLeast : 1 ≤ (lookedIn world look timeout interval s).length
  atMost : (lookedIn world look timeout interval s).length ≤
    timeout.nanos ⌈/⌉ interval.nanos + 1
  success_iff : success ↔ ∃ q ∈ lookedIn world look timeout interval s, Succeeds look won q
  last_of_success : ∀ before q after,
    lookedIn world look timeout interval s = before ++ q :: after → Succeeds look won q → after = []
  deadline : gaveUp → ∃ before last,
    lookedIn world look timeout interval s = before ++ [last] ∧ (look last).1 = none ∧
      world.now s + timeout.nanos ≤ world.now (world.pause (look last).2)

variable {world : Surroundings σ} {look : σ → Option α × σ} {interval timeout : Span}
  {deadline : Nat} {won : α → Prop}

/-! ## One course of the loop -/

namespace Goes

variable {s : σ} {looked : List σ} {ending : Option α × σ}

theorem length_pos (h : Goes world look interval deadline s looked ending) :
    1 ≤ looked.length := by
  cases h <;> simp

theorem eq_nil_of_seen (h : Goes world look interval deadline s looked ending) {before : List σ}
    {q : σ} {after : List σ} (hlooked : looked = before ++ q :: after) {a : α}
    (ha : (look q).1 = some a) : after = [] := by
  induction h generalizing before with
  | seen | late =>
    rcases List.singleton_eq_append_iff.1 hlooked with ⟨-, hend⟩ | ⟨-, hend⟩
    · exact (List.cons.inj hend).2
    · cases hend
  | again hlook _ _ ih =>
    rcases List.cons_eq_append_iff.1 hlooked with ⟨-, hrest⟩ | ⟨rest, -, hrest⟩
    · obtain ⟨rfl, -⟩ := List.cons.inj hrest
      simp [hlook] at ha
    · exact ih hrest

/-- What the loop ends with is what its last look has seen. -/
theorem exists_last (h : Goes world look interval deadline s looked ending) :
    ∃ before last, looked = before ++ [last] ∧ (look last).1 = ending.1 ∧
      (ending.1 = none → deadline ≤ world.now (world.pause (look last).2)) := by
  induction h with
  | @seen s next a hlook => exact ⟨[], s, rfl, by simp [hlook], by simp⟩
  | @late s next hlook hover => exact ⟨[], s, rfl, by simp [hlook], fun _ => by simpa [hlook]⟩
  | @again s next looked ending hlook hopen hrest ih =>
    obtain ⟨before, last, rfl, hlast⟩ := ih
    exact ⟨s :: before, last, rfl, hlast⟩

theorem succeeds_iff (h : Goes world look interval deadline s looked ending) :
    (∃ a, ending.1 = some a ∧ won a) ↔ ∃ q ∈ looked, Succeeds look won q := by
  obtain ⟨before, last, rfl, hlast, -⟩ := h.exists_last
  constructor
  · rintro ⟨a, ha, hwon⟩
    exact ⟨last, by simp, a, hlast.trans ha, hwon⟩
  · rintro ⟨q, hq, a, ha, hwon⟩
    obtain ⟨first, after, hsplit⟩ := List.append_of_mem hq
    obtain rfl := h.eq_nil_of_seen hsplit ha
    obtain ⟨-, hend⟩ := List.append_inj' hsplit rfl
    obtain rfl : last = q := by simpa using hend
    exact ⟨a, hlast.symm.trans ha, hwon⟩

/-- What a look adds to a list, and nothing else touches, is in the end what there was to see in
each of its looks. -/
theorem track {ω : Type} {kept : σ → List ω} {view : σ → ω}
    (h : Goes world look interval deadline s looked ending)
    (hlook : ∀ s, kept (look s).2 = view s :: kept s)
    (hpause : ∀ s, kept (world.pause s) = kept s)
    (hsleep : ∀ s, kept (world.sleep interval s) = kept s) :
    kept ending.2 = (looked.map view).reverse ++ kept s := by
  induction h with
  | @seen s next a hseen =>
    have hnext := hlook s
    rw [hseen] at hnext
    exact hnext
  | @late s next hseen hover =>
    have hnext := hlook s
    rw [hseen] at hnext
    exact (hpause next).trans hnext
  | @again s next looked ending hseen hopen hrest ih =>
    have hnext := hlook s
    rw [hseen] at hnext
    rw [ih, hsleep, hpause, hnext, List.map_cons, List.reverse_cons, List.append_assoc]
    rfl

/-- A loop that notes its looks goes the same way. -/
theorem run_noting (h : Goes world look interval deadline s looked ending) {fuel : Nat}
    (hfuel : looked.length ≤ fuel) (notes : List σ) :
    run (world.beside (List σ)) (noting look) interval deadline fuel (notes, s) =
      (ending.1, notes ++ looked, ending.2) := by
  obtain ⟨fuel, rfl⟩ : ∃ n, fuel = n + 1 := ⟨fuel - 1, by have := h.length_pos; omega⟩
  induction h generalizing fuel notes with
  | seen hseen => simp only [run, noting, hseen]
  | late hseen hover =>
    simp only [run, noting, hseen]
    exact if_pos hover
  | @again s next looked ending hseen hopen hrest ih =>
    have hpos := hrest.length_pos
    rw [List.length_cons] at hfuel
    obtain ⟨fuel, rfl⟩ : ∃ n, fuel = n + 1 := ⟨fuel - 1, by omega⟩
    have hbehind := ih (notes ++ [s]) fuel (by omega)
    rw [List.append_assoc, List.singleton_append] at hbehind
    rw [run]
    simp only [noting, hseen]
    exact (if_neg (not_le.2 hopen)).trans hbehind

end Goes

/-! ## The loop ends -/

/-- As long as the deadline is no more than so many sleeps away, the loop comes to its end. -/
theorem goes_run (hclock : world.Clocked)
    (hlook : ∀ s, world.now s ≤ world.now (look s).2) (fuel : Nat) {s : σ}
    (hnear : deadline ≤ world.now s + fuel * interval.nanos) :
    ∃ looked, Goes world look interval deadline s looked
        (run world look interval deadline (fuel + 1) s) ∧ looked.length ≤ fuel + 1 := by
  induction fuel generalizing s with
  | zero =>
    rw [run]
    rcases hseen : look s with ⟨_ | a, next⟩
    · have hpause : world.now s ≤ world.now (world.pause next) := by
        simpa only [hseen] using (hlook s).trans (hclock.pause _)
      have hlate : deadline ≤ world.now (world.pause next) := by omega
      dsimp only
      rw [if_pos hlate]
      exact ⟨[s], .late hseen hlate, by simp⟩
    · exact ⟨[s], .seen hseen, by simp⟩
  | succ fuel ih =>
    rw [run]
    rcases hseen : look s with ⟨_ | a, next⟩
    · have hpause : world.now s ≤ world.now (world.pause next) := by
        simpa only [hseen] using (hlook s).trans (hclock.pause _)
      dsimp only
      split_ifs with hlate
      · exact ⟨[s], .late hseen hlate, by simp⟩
      · -- The sleep takes the clock one interval further.
        have hsleep := hclock.sleep interval (world.pause next)
        rw [Nat.add_one_mul] at hnear
        obtain ⟨looked, hgoes, hfew⟩ := ih (s := world.sleep interval (world.pause next)) (by omega)
        exact ⟨s :: looked, .again hseen (not_le.1 hlate) hgoes, by simpa using hfew⟩
    · exact ⟨[s], .seen hseen, by simp⟩

theorem looks_eq (hinterval : 0 < interval.nanos) :
    looks timeout interval = timeout.nanos ⌈/⌉ interval.nanos + 1 := by
  rw [looks, Nat.ceilDiv_eq_add_pred_div, Nat.max_eq_left hinterval,
    Nat.add_sub_assoc hinterval]

/-- A poll is the loop, and keeps to its time. -/
theorem poll_timely (hclock : world.Clocked) (hinterval : 0 < interval.nanos)
    (hlook : ∀ s, world.now s ≤ world.now (look s).2) (won : α → Prop) (timeout : Span) (s : σ)
    {success gaveUp : Prop}
    (hsuccess : success ↔ ∃ a, (poll world look timeout interval s).1 = some a ∧ won a)
    (hgaveUp : gaveUp → (poll world look timeout interval s).1 = none) :
    Timely world look won timeout interval s success gaveUp := by
  have hnear : world.now s + timeout.nanos ≤ world.now (world.pause s) +
      (timeout.nanos ⌈/⌉ interval.nanos) * interval.nanos := by
    have hpause := hclock.pause s
    have hfits : timeout.nanos ≤ interval.nanos * (timeout.nanos ⌈/⌉ interval.nanos) :=
      le_smul_ceilDiv hinterval
    rw [Nat.mul_comm] at hfits
    omega
  obtain ⟨looked, hgoes, hfew⟩ := goes_run hclock hlook _ hnear
  have hnoted : poll (world.beside (List σ)) (noting look) timeout interval ([], s) = _ :=
    hgoes.run_noting (hfew.trans_eq (looks_eq hinterval).symm) []
  rw [List.nil_append, ← looks_eq hinterval] at hnoted
  rw [← looks_eq hinterval] at hgoes
  obtain rfl : lookedIn world look timeout interval s = looked := by rw [lookedIn, hnoted]
  refine ⟨hnoted, hgoes, hgoes.length_pos, hfew, hsuccess.trans hgoes.succeeds_iff, ?_, ?_⟩
  · rintro before q after hsplit ⟨a, ha, -⟩
    exact hgoes.eq_nil_of_seen hsplit ha
  · intro hnone
    obtain ⟨before, last, hlooked, hlast, hover⟩ := hgoes.exists_last
    exact ⟨before, last, hlooked, hlast.trans (hgaveUp hnone), hover (hgaveUp hnone)⟩

theorem exists_look_of_poll {s : σ} {a : α}
    (h : (poll world look timeout interval s).1 = some a) : ∃ q, (look q).1 = some a := by
  have hkeeps : Keeps world look interval (fun _ => True) fun _ => True :=
    ⟨fun _ h => h, fun _ _ _ _ => trivial, fun _ h => h, fun _ h => h⟩
  have hend := hkeeps.poll timeout (s := s) trivial
  rcases hpoll : poll world look timeout interval s with ⟨_ | b, next⟩
  · simp [hpoll] at h
  · rw [hpoll] at h hend
    obtain ⟨q, -, hq⟩ := hend
    exact ⟨q, by rw [hq]; exact h⟩

end Polling

namespace Match

variable {σ : Type}

def IsFound (result : Except Failure Match) : Prop := ∃ found, result = .ok found

/-- Has a wait given up because its time was over? -/
def GaveUp (result : Except Failure Match) : Prop :=
  ∃ channel expected actual timeout,
    result = .error (.expectTimeout channel expected actual timeout)

/-- A wait whose poll from `s` is timely, and which has seen what there was in each look of that
poll, the last first, and nothing else. -/
structure InTime {ω τ : Type} (world : Surroundings σ)
    (look : σ → Option (Except Failure Match) × σ) (view : σ → ω) (timeout interval : Span) (s : σ)
    (wait : Wait ω τ) : Prop where
  timely : Polling.Timely world look IsFound timeout interval s (IsFound wait.result)
    (GaveUp wait.result)
  seen_eq : wait.seen = ((Polling.lookedIn world look timeout interval s).map view).reverse
  seenAtLeast : 1 ≤ wait.seen.length
  seenAtMost : wait.seen.length ≤ timeout.nanos ⌈/⌉ interval.nanos + 1

/-- A wait that reports what the look has seen that decides it, and gives up if none does. -/
theorem timely_of_poll {world : Surroundings σ} {look : σ → Option (Except Failure Match) × σ}
    {timeout interval : Span} {s : σ} {result : Except Failure Match} (hclock : world.Clocked)
    (hinterval : 0 < interval.nanos) (hlook : ∀ s, world.now s ≤ world.now (look s).2)
    (hdecides : ∀ q r, (look q).1 = some r → ¬GaveUp r)
    (hresult : match (Polling.poll world look timeout interval s).1 with
      | some r => result = r
      | none => GaveUp result) :
    Polling.Timely world look IsFound timeout interval s (IsFound result) (GaveUp result) := by
  apply Polling.poll_timely hclock hinterval hlook
  · cases hpoll : (Polling.poll world look timeout interval s).1 with
    | none =>
      rw [hpoll] at hresult
      obtain ⟨channel, expected, actual, limit, rfl⟩ := hresult
      simp [IsFound]
    | some r =>
      rw [hpoll] at hresult
      obtain rfl := hresult
      simp
  · intro hgaveUp
    cases hpoll : (Polling.poll world look timeout interval s).1 with
    | none => rfl
    | some r =>
      rw [hpoll] at hresult
      obtain rfl := hresult
      obtain ⟨q, hq⟩ := Polling.exists_look_of_poll hpoll
      exact absurd hgaveUp (hdecides q _ hq)

/-- If such a wait keeps all that its looks see, these are all the looks of its poll. -/
theorem inTime_of_poll {ω τ : Type} {world : Surroundings σ}
    {look : σ → Option (Except Failure Match) × σ} {view : σ → ω} (kept : σ → List ω)
    {timeout interval : Span} {s : σ} {wait : Wait ω τ} (hclock : world.Clocked)
    (hinterval : 0 < interval.nanos) (hlook : ∀ s, world.now s ≤ world.now (look s).2)
    (hdecides : ∀ q r, (look q).1 = some r → ¬GaveUp r)
    (hview : ∀ s, kept (look s).2 = view s :: kept s)
    (hpause : ∀ s, kept (world.pause s) = kept s)
    (hsleep : ∀ s, kept (world.sleep interval s) = kept s) (hempty : kept s = [])
    (hresult : match (Polling.poll world look timeout interval s).1 with
      | some r => wait.result = r
      | none => GaveUp wait.result)
    (hseen : wait.seen = kept (Polling.poll world look timeout interval s).2) :
    InTime world look view timeout interval s wait := by
  have htimely := timely_of_poll hclock hinterval hlook hdecides hresult
  rw [htimely.goes.track hview hpause hsleep, hpause, hempty, List.append_nil] at hseen
  have hlength : wait.seen.length = (Polling.lookedIn world look timeout interval s).length := by
    rw [hseen, List.length_reverse, List.length_map]
  exact ⟨htimely, hseen, htimely.atLeast.trans_eq hlength.symm, hlength.trans_le htimely.atMost⟩

variable {world : Surroundings σ} {stream : σ → Buffer}

/-- A look for a text leaves the clock alone, or reads the text a pause later. -/
theorem lookLiteral_clock (hclock : world.Clocked) (channel : Channel) (text : String)
    (q : (List Buffer × Cursor) × σ) :
    world.now q.2 ≤ world.now (lookLiteral world stream channel text q).2.2 := by
  apply lookLiteral_keeps (P := fun _ s => world.now q.2 ≤ world.now s) channel
  · intro c s hs
    exact hs.trans (hclock.pause s)
  · intro c s hs
    exact hs
  · exact le_rfl

theorem lookLiteral_kept (channel : Channel) (text : String) (q : (List Buffer × Cursor) × σ) :
    (lookLiteral world stream channel text q).2.1.1 = stream q.2 :: q.1.1 := by
  obtain ⟨⟨seen, c⟩, s⟩ := q
  unfold lookLiteral
  dsimp only
  split <;> rfl

theorem not_gaveUp_of_lookLiteral {channel : Channel} {text : String}
    {q : (List Buffer × Cursor) × σ} {r : Except Failure Match}
    (h : (lookLiteral world stream channel text q).1 = some r) : ¬GaveUp r := by
  obtain ⟨⟨seen, c⟩, s⟩ := q
  unfold lookLiteral at h
  dsimp only at h
  split at h
  · obtain rfl := Option.some.inj h
    simp [GaveUp]
  · obtain rfl := Option.some.inj h
    simp [GaveUp]
  · cases h

theorem lookMatch_clock (hclock : world.Clocked) (channel : Channel) (m : Matcher)
    (q : List Glimpse × σ) :
    world.now q.2 ≤ world.now (lookMatch world stream channel m q).2.2 :=
  hclock.pause q.2

theorem not_gaveUp_of_lookMatch {channel : Channel} {m : Matcher} {q : List Glimpse × σ}
    {r : Except Failure Match} (h : (lookMatch world stream channel m q).1 = some r) :
    ¬GaveUp r := by
  unfold lookMatch lookPattern at h
  dsimp only at h
  split at h
  · obtain rfl := Option.some.inj h
    simp [GaveUp]
  · split_ifs at h
    obtain rfl := Option.some.inj h
    simp [GaveUp]

theorem watchLiteral_inTime (hclock : world.Clocked) {interval : Span}
    (hinterval : 0 < interval.nanos) (channel : Channel) (text : String) (timeout : Span)
    (c : Cursor) (s : σ) :
    InTime (world.beside _) (lookLiteral world stream channel text) (fun q => stream q.2) timeout
      interval (([], c), s) (watchLiteral world stream channel text timeout interval c s) := by
  apply inTime_of_poll (fun q => q.1.1) (hclock.beside _) hinterval
    (lookLiteral_clock hclock channel text) (fun q r => not_gaveUp_of_lookLiteral)
    (lookLiteral_kept channel text) (fun _ => rfl) (fun _ => rfl) rfl
  all_goals
    unfold watchLiteral
    dsimp only
    rcases Polling.poll (world.beside _) (lookLiteral world stream channel text) timeout interval
      (([], c), s) with ⟨_ | result, ⟨seen, cursor⟩, next⟩
  · exact ⟨_, _, _, _, rfl⟩
  all_goals rfl

theorem watchPattern_inTime (hclock : world.Clocked) {interval : Span}
    (hinterval : 0 < interval.nanos) (channel : Channel) (m : Matcher) (timeout : Span) (s : σ) :
    InTime (world.beside _) (lookMatch world stream channel m)
      (fun q => (glimpse world stream q.2).1) timeout interval ([], s)
      (watchPattern world stream channel m timeout interval s) := by
  apply inTime_of_poll (fun q => q.1) (hclock.beside _) hinterval (lookMatch_clock hclock channel m)
    (fun q r => not_gaveUp_of_lookMatch) (fun _ => rfl) (fun _ => rfl) (fun _ => rfl) rfl
  all_goals
    unfold watchPattern
    dsimp only
    rcases Polling.poll (world.beside _) (lookMatch world stream channel m) timeout interval
      ([], s) with ⟨_ | result, seen, next⟩
  · exact ⟨_, _, _, _, rfl⟩
  all_goals rfl

end Match

namespace Trial

open Daemon (World)

variable {σ : Type} (w : World σ)

def lookEndpoint (e : Endpoint) (s : σ) : Option Unit × σ :=
  (if w.connects e s then some () else none, s)

/-- The beginning of a wait for an endpoint: it is in the log first. -/
def beginWait (e : Endpoint) (timeout : Span) (s : σ) : σ :=
  w.debug s!"Waiting for endpoint: {e.render} (timeout: {timeout.render})" s

/-- What is made of the poll of a wait for an endpoint that began at `start`: the answer, and one
more entry in the log. -/
def concludeWait (e : Endpoint) (timeout : Span) (start : Nat) :
    Option Unit × σ → Except Failure Span × σ
  | (some (), next) =>
    let elapsed : Span := ⟨w.now next - start⟩
    (.ok elapsed, w.info s!"Endpoint ready after {elapsed.render}: {e.render}" next)
  | (none, next) =>
    let failure := Failure.endpointUnreachable e.render timeout
    (.error failure, w.error failure.message next)

variable {w}

theorem awaitEndpoint_eq_conclude (t : Trial σ) (e : Endpoint) (timeout : Span) (s : σ) :
    t.awaitEndpoint w e timeout s =
      concludeWait w e timeout (w.now (beginWait w e timeout s))
        (Polling.poll w.toSurroundings (lookEndpoint w e) timeout t.config.endpointPollInterval
          (beginWait w e timeout s)) := by
  unfold awaitEndpoint
  dsimp only
  split
  all_goals
    next hpoll =>
    change Polling.poll _ (lookEndpoint w e) _ _ (beginWait w e timeout s) = _ at hpoll
    rw [hpoll]
    rfl

theorem awaitEndpoint_timely (hclock : w.toSurroundings.Clocked) (t : Trial σ)
    (hinterval : 0 < t.config.endpointPollInterval.nanos) (e : Endpoint) (timeout : Span) (s : σ) :
    let result := (t.awaitEndpoint w e timeout s).1
    Polling.Timely w.toSurroundings (lookEndpoint w e) (fun _ => True) timeout
      t.config.endpointPollInterval (beginWait w e timeout s) (∃ elapsed, result = .ok elapsed)
      (result = .error (.endpointUnreachable e.render timeout)) := by
  intro result
  have hresult : result = _ := congrArg Prod.fst (t.awaitEndpoint_eq_conclude e timeout s)
  have hlook : ∀ s, w.now s ≤ w.now (lookEndpoint w e s).2 := fun s => le_rfl
  apply Polling.poll_timely hclock hinterval hlook
  all_goals
    rw [hresult]
    rcases Polling.poll w.toSurroundings (lookEndpoint w e) timeout t.config.endpointPollInterval
      (beginWait w e timeout s) with ⟨_ | ⟨⟩, next⟩
    all_goals simp [concludeWait]

/-- A wait for a text, for a pattern or for an endpoint ends in time, by a clock that does not go
back and whatever happens meanwhile: it looks at least once, and no more often than its interval
fits into its time, and once more; it succeeds just if one of its looks does, which is then the
last one; and it gives up only behind a look that saw nothing, at its deadline. Its looks are those
of its own poll: what it has seen is what there was to see in them, and behind the poll for an
endpoint only the log goes on. -/
theorem waits_in_time (w : World σ) (hclock : w.toSurroundings.Clocked) (timeout : Span) (s : σ) :
    (∀ interval : Span, 0 < interval.nanos → ∀ (stream : σ → Buffer) (channel : Channel),
      (∀ text c,
        Match.InTime (w.toSurroundings.beside _)
          (Match.lookLiteral w.toSurroundings stream channel text) (fun q => stream q.2) timeout
          interval (([], c), s)
          (Match.watchLiteral w.toSurroundings stream channel text timeout interval c s)) ∧
      ∀ m,
        Match.InTime (w.toSurroundings.beside _)
          (Match.lookMatch w.toSurroundings stream channel m)
          (fun q => (Match.glimpse w.toSurroundings stream q.2).1) timeout interval ([], s)
          (Match.watchPattern w.toSurroundings stream channel m timeout interval s)) ∧
    ∀ t : Trial σ, 0 < t.config.endpointPollInterval.nanos → ∀ e,
      let began := beginWait w e timeout s
      let result := (t.awaitEndpoint w e timeout s).1
      t.awaitEndpoint w e timeout s =
        concludeWait w e timeout (w.now began)
          (Polling.poll w.toSurroundings (lookEndpoint w e) timeout t.config.endpointPollInterval
            began) ∧
      Polling.Timely w.toSurroundings (lookEndpoint w e) (fun _ => True) timeout
        t.config.endpointPollInterval began (∃ elapsed, result = .ok elapsed)
        (result = .error (.endpointUnreachable e.render timeout)) := by
  refine ⟨fun interval hinterval stream channel => ⟨fun text c => ?_, fun m => ?_⟩,
    fun t hinterval e => ⟨t.awaitEndpoint_eq_conclude e timeout s, ?_⟩⟩
  · exact Match.watchLiteral_inTime hclock hinterval channel text timeout c s
  · exact Match.watchPattern_inTime hclock hinterval channel m timeout s
  · exact t.awaitEndpoint_timely hclock hinterval e timeout s

/-- A world in which nothing happens but the passing of time, and where connections are accepted
from some moment on. -/
def standstill (opens : Nat) : World Nat where
  toSurroundings := Match.stillness
  log _ _ _ s := s
  count _ _ := 0
  summarize s := s
  files _ := {}
  setFiles _ s := s
  draw s := ("", s)
  stamp _ := ""
  launch _ s := (.error .notFound, s)
  capture _ _ s := (.ok (), s)
  stream _ _ _ := {}
  write _ _ s := (.ok (), s)
  closeInput _ s := s
  poll _ s := (.ok none, s)
  await _ s := (.error .noChild, s)
  signal _ _ s := (true, s)
  kill _ s := (.ok (), s)
  connects _ s := opens ≤ s

theorem standstill_clocked (opens : Nat) : (standstill opens).toSurroundings.Clocked where
  pause _ := le_rfl
  sleep span _ := Nat.add_le_add_left (le_max_left span.nanos 1) _

/-- An endpoint that is reached with one of at most four looks, and a wait for a text for which
there is no time at all, and which looks once. -/
theorem waits_in_time_short :
    let w := standstill 4
    let t : Trial Nat := { name := "t", config := { endpointPollInterval := ⟨2⟩ }, root := "/t" }
    let looked := Polling.lookedIn w.toSurroundings (lookEndpoint w (.ipc "/a")) ⟨5⟩ ⟨2⟩ 0
    let wait := Match.watchLiteral w.toSurroundings (fun _ => {}) .stdout "a" ⟨0⟩ ⟨1⟩ {} 0
    (t.awaitEndpoint w (.ipc "/a") ⟨5⟩ 0).1 = .ok ⟨4⟩ ∧
      looked.length ≤ 4 ∧ (∃ s ∈ looked, 4 ≤ s) ∧ wait.seen.length = 1 := by
  intro w t looked wait
  have hwaits := waits_in_time w (standstill_clocked 4)
  have hreached : (t.awaitEndpoint w (.ipc "/a") ⟨5⟩ 0).1 = .ok ⟨4⟩ := by decide +kernel
  obtain ⟨-, htimely⟩ := (hwaits ⟨5⟩ 0).2 t (by decide) (.ipc "/a")
  obtain ⟨s, hs, a, ha, -⟩ := htimely.success_iff.1 ⟨_, hreached⟩
  have hthree : (5 : Nat) ⌈/⌉ 2 = 3 := by rw [Nat.ceilDiv_eq_add_pred_div]
  refine ⟨hreached, htimely.atMost.trans_eq (congrArg (· + 1) hthree), ⟨s, hs, ?_⟩, ?_⟩
  · by_contra hnot
    have hclosed : w.connects (.ipc "/a") s = false := decide_eq_false hnot
    simp [lookEndpoint, hclosed] at ha
  · have hone := ((hwaits ⟨0⟩ 0).1 ⟨1⟩ (by decide) (fun _ => {}) .stdout).1 "a" {}
    exact le_antisymm hone.seenAtMost hone.seenAtLeast

end Trial

end DaemonDialogue
