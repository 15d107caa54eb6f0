import DaemonDialogue.Daemon.Handle
import DaemonDialogue.Proofs.Expectation.Wait
import DaemonDialogue.Proofs.Stream.Writer
import DaemonDialogue.Proofs.Template.Rendering
import DaemonDialogue.Proofs.Text.Utf8

/-!
# What the operations of a handle keep

In a world in which the streams of a process only grow, every operation of a handle keeps what is
known for good: an end, the rest that was recorded at it, and an input that is closed. The place
in the output goes forward, and stays within the output.
-/

namespace DaemonDialogue

/-! ## Worlds -/

namespace Daemon.World

variable {σ : Type} (w : World σ) (pid : Nat)

/-- Have the streams of a process grown? -/
def Grows (s next : σ) : Prop :=
  ∀ channel, (w.stream pid channel s).Becomes (w.stream pid channel next)

/-- A world in which the streams of a process only grow, whatever is done and while time passes. -/
structure Lawful : Prop where
  pause : ∀ s, w.Grows pid s (w.pause s)
  sleep : ∀ span s, w.Grows pid s (w.sleep span s)
  log : ∀ level message context s, w.Grows pid s (w.log level message context s)
  write : ∀ bytes s, w.Grows pid s (w.write pid bytes s).2
  closeInput : ∀ s, w.Grows pid s (w.closeInput pid s)
  poll : ∀ s, w.Grows pid s (w.poll pid s).2
  await : ∀ s, w.Grows pid s (w.await pid s).2
  signal : ∀ signal s, w.Grows pid s (w.signal pid signal s).2
  kill : ∀ s, w.Grows pid s (w.kill pid s).2

variable {w pid} {s next last : σ}

theorem Grows.refl (s : σ) : w.Grows pid s s := fun _ => .refl _

theorem Grows.trans (h : w.Grows pid s next) (hnext : w.Grows pid next last) :
    w.Grows pid s last :=
  fun channel => (h channel).trans (hnext channel)

theorem Lawful.log_kill (hw : w.Lawful pid) (level : Log.Level) (message : String) (s : σ) :
    w.Grows pid s (w.kill pid (w.log level message [] s)).2 :=
  (hw.log level message [] s).trans (hw.kill _)

end Daemon.World

namespace Handle

open Daemon (World)

variable {σ : Type} {w : World σ} {h next last : Handle σ} {s s' s'' : σ}

/-- A handle whose world lets its streams only grow, and whose template functions do so, too. -/
structure Lawful (h : Handle σ) (w : World σ) : Prop where
  world : w.Lawful h.pid
  functions : ∀ name value s s', h.functions.call? name s = some (value, s') → w.Grows h.pid s s'

def output (h : Handle σ) (w : World σ) (s : σ) : Buffer := w.stream h.pid .stdout s

/-- Has a handle become another by what its operations can do to it? -/
structure Kept (w : World σ) (h : Handle σ) (s : σ) (next : Handle σ) (s' : σ) : Prop where
  same : next = { h with
    inputOpen := next.inputOpen
    cursor := next.cursor
    status := next.status
    unmatched := next.unmatched
    capturing := next.capturing }
  grows : w.Grows h.pid s s'
  input : h.inputOpen = false → next.inputOpen = false
  status : ∀ status, h.status = some status → next.status = some status
  unmatched : ∀ text, h.unmatched = some text → next.unmatched = some text
  position : h.cursor.position ≤ next.cursor.position
  within : h.cursor.position ≤ (h.output w s).length →
    next.cursor.position ≤ (next.output w s').length

theorem Kept.pid (hk : Kept w h s next s') : next.pid = h.pid := by rw [hk.same]

theorem Kept.name (hk : Kept w h s next s') : next.name = h.name := by rw [hk.same]

theorem Kept.functions (hk : Kept w h s next s') : next.functions = h.functions := by rw [hk.same]

theorem Kept.lawful (hk : Kept w h s next s') (hl : h.Lawful w) : next.Lawful w where
  world := hk.pid ▸ hl.world
  functions := by
    rw [hk.functions, hk.pid]
    exact hl.functions

/-- If only the state has changed, it is enough that the streams have grown. -/
theorem Kept.of_grows (hg : w.Grows h.pid s s') : Kept w h s h s' where
  same := rfl
  grows := hg
  input := id
  status _ := id
  unmatched _ := id
  position := le_rfl
  within hle := hle.trans (hg .stdout).length_le

theorem Kept.refl (h : Handle σ) (s : σ) : Kept w h s h s := .of_grows (.refl s)

theorem Kept.trans (hk : Kept w h s next s') (hnext : Kept w next s' last s'') :
    Kept w h s last s'' where
  same := by
    have hsame := hnext.same
    rw [hk.same] at hsame
    exact hsame
  grows := hk.grows.trans (hk.pid ▸ hnext.grows)
  input hopen := hnext.input (hk.input hopen)
  status status hstatus := hnext.status status (hk.status status hstatus)
  unmatched text htext := hnext.unmatched text (hk.unmatched text htext)
  position := hk.position.trans hnext.position
  within hle := hnext.within (hk.within hle)

/-- A cursor at the end of an output that has ended never moves again. -/
theorem Kept.cursor_eq (hk : Kept w h s next s') (hclosed : (h.output w s).closed = true)
    (hend : h.cursor.position = (h.output w s).length) : next.cursor = h.cursor := by
  have hsame : next.output w s' = h.output w s := by
    rw [output, hk.pid]
    exact (hk.grows .stdout).closed hclosed
  have hwithin := hk.within hend.le
  have hposition := hk.position
  rw [hsame] at hwithin
  have heq : next.cursor.position = h.cursor.position := by omega
  rcases hnext : next.cursor with ⟨position⟩
  rcases hcursor : h.cursor with ⟨position'⟩
  simp_all

/-! ## Input and templates -/

theorem Lawful.writeInput (hl : h.Lawful w) (line : String) (s : σ) :
    w.Grows h.pid s (h.writeInput w line s).2 := by
  unfold Handle.writeInput
  split_ifs
  · exact (hl.world.log _ _ _ s).trans (hl.world.write _ _)
  · exact .refl s

theorem Lawful.writeLine (hl : h.Lawful w) (line : String) (s : σ) :
    w.Grows h.pid s (h.writeLine w line s).2 := by
  have hwrite := hl.writeInput line s
  unfold Handle.writeLine
  rcases hresult : h.writeInput w line s with ⟨fault | _, s'⟩
  all_goals
    rw [hresult] at hwrite
    exact hwrite

theorem Lawful.inputLine (hl : h.Lawful w) (line : String) (s : σ) :
    w.Grows h.pid s (h.inputLine w line s).1 := by
  have hwrite := hl.writeInput line s
  unfold Handle.inputLine
  rcases hresult : h.writeInput w line s with ⟨fault | _, s'⟩
  all_goals
    rw [hresult] at hwrite
    dsimp only
  · split_ifs
    · exact hwrite.trans (hl.world.log _ _ _ s')
    · exact hwrite
  · exact hwrite

theorem Lawful.act (hl : h.Lawful w) (name argument : String) (s : σ) :
    w.Grows h.pid s ((h.scope w).act s name argument).1 := by
  unfold scope
  dsimp only
  split_ifs
  · exact hl.inputLine argument s
  · exact .refl s

theorem scope_keepsWord (h : Handle σ) (s : σ) : (h.scope w).KeepsWord h.functions s :=
  fun _ _ _ hfield => Option.isSome_iff_exists.1 hfield

theorem Lawful.reaches (hl : h.Lawful w)
    (hreach : Template.Reaches h.functions (h.scope w) s s') : w.Grows h.pid s s' := by
  induction hreach with
  | refl => exact .refl s
  | call _ called ih => exact ih.trans (hl.functions _ _ _ _ called)
  | @act before after name argument result _ acted ih =>
    have hact := hl.act name argument before
    rw [acted] at hact
    exact ih.trans hact

theorem Lawful.render (hl : h.Lawful w) (source : String) (s : σ) :
    w.Grows h.pid s (h.render w source s).2 := by
  unfold Handle.render
  cases Template.read source with
  | error e => exact .refl s
  | ok t =>
    have hreach := hl.reaches (Template.render_reaches t (h.scope_keepsWord (w := w) s))
    dsimp only
    split <;> exact hreach

theorem kept_closeInput (hl : h.Lawful w) (s : σ) :
    Kept w h s (h.closeInput w s).1 (h.closeInput w s).2 := by
  unfold closeInput
  split_ifs
  · refine { Kept.of_grows ((hl.world.closeInput s).trans ?_) with same := rfl, input := fun _ => rfl }
    exact hl.world.log _ _ _ _
  · exact .refl h s

/-! ## Expectations -/

theorem Lawful.logOutcome (hl : h.Lawful w) (result : Except Failure Match) (s : σ) :
    w.Grows h.pid s (h.logOutcome w result s) := by
  cases result <;> exact hl.world.log _ _ _ s

theorem kept_scan (h : Handle σ) (text : String) (s : σ) :
    Kept w h s { h with cursor := (h.cursor.scan (h.output w s) text).2 } s := by
  rcases h.cursor.scan_cases (h.output w s) text with ⟨start, stop, hrange, hscan⟩ | ⟨-, hscan⟩
  · obtain ⟨-, hstop⟩ := Cursor.findRange?_le hrange
    rw [Cursor.length_unreadBytes] at hstop
    rw [hscan]
    refine { Kept.refl h s with same := rfl, position := Nat.le_add_right _ _, within := ?_ }
    intro hle
    change h.cursor.position + stop ≤ (h.output w s).length
    omega
  · rw [hscan]
    exact .refl h s

theorem kept_expectLiteral (hl : h.Lawful w) (text : String) (timeout : Span) (s : σ) :
    Kept w h s (h.expectLiteral w text timeout s).2.1 (h.expectLiteral w text timeout s).2.2 := by
  have hpause : ∀ c s', Kept w h s { h with cursor := c } s' →
      Kept w h s { h with cursor := c } (w.pause s') :=
    fun c s' hk => hk.trans (.of_grows (hl.world.pause s'))
  have hsleep : ∀ c s', Kept w h s { h with cursor := c } s' →
      Kept w h s { h with cursor := c } (w.sleep h.config.pollInterval s') :=
    fun c s' hk => hk.trans (.of_grows (hl.world.sleep _ s'))
  have hscan : ∀ c s', Kept w h s { h with cursor := c } s' →
      Kept w h s { h with cursor := (c.scan (w.stream h.pid .stdout s') text).2 } s' :=
    fun c s' hk => hk.trans (kept_scan _ text s')
  have hstart : Kept w h s h (w.trace s!"Expecting on stdout: {quoted text}" s) :=
    .of_grows (hl.world.log _ _ _ s)
  unfold expectLiteral
  exact (Match.awaitLiteral_keeps .stdout timeout hpause hsleep hscan hstart).trans
    (.of_grows (hl.logOutcome _ _))

theorem kept_expect (hl : h.Lawful w) (source : String) (s : σ) :
    Kept w h s (h.expect w source s).2.1 (h.expect w source s).2.2 := by
  have hrender := hl.render source s
  unfold expect
  rcases hresult : h.render w source s with ⟨e | text, s'⟩
  all_goals rw [hresult] at hrender
  · exact .of_grows hrender
  · exact (Kept.of_grows hrender).trans (kept_expectLiteral hl text _ s')

theorem Lawful.expectPattern (hl : h.Lawful w) (channel : Channel) (source : String)
    (timeout : Span) (s : σ) : w.Grows h.pid s (h.expectPattern w channel source timeout s).2 := by
  unfold Handle.expectPattern
  cases Pattern.read? source with
  | none => exact .refl s
  | some p =>
    dsimp only
    refine World.Grows.trans ?_ (hl.logOutcome _ _)
    refine Match.awaitPattern_keeps (P := fun s' => w.Grows h.pid s s')
      (fun s' hs' => hs'.trans (hl.world.pause s'))
      (fun s' hs' => hs'.trans (hl.world.sleep _ s')) p ?_
    exact hl.world.log _ _ _ s

/-! ## Ends -/

theorem kept_status {status : Option ExitStatus} (hnone : h.status = none)
    (hg : w.Grows h.pid s s') : Kept w h s { h with status } s' :=
  { Kept.of_grows hg with
    same := rfl
    status := fun status hstatus => by simp [hnone] at hstatus }

theorem kept_tryStatus (hl : h.Lawful w) (s : σ) :
    Kept w h s (h.tryStatus w s).2.1 (h.tryStatus w s).2.2 := by
  have hpoll := hl.world.poll s
  unfold tryStatus
  cases hstatus : h.status with
  | some status => exact .refl h s
  | none =>
    rcases hresult : w.poll h.pid s with ⟨fault | status, s'⟩
    all_goals rw [hresult] at hpoll
    · exact .of_grows hpoll
    · exact kept_status hstatus hpoll

theorem kept_isRunning (hl : h.Lawful w) (s : σ) :
    Kept w h s (h.isRunning w s).2.1 (h.isRunning w s).2.2 :=
  kept_tryStatus hl s

theorem kept_terminate (hl : h.Lawful w) (s : σ) :
    Kept w h s (h.terminate w s).2.1 (h.terminate w s).2.2 := by
  have hkept := kept_tryStatus hl s
  unfold terminate
  rcases hresult : h.tryStatus w s with ⟨e | _ | status, next, s'⟩
  all_goals rw [hresult] at hkept
  · exact hkept
  · have hworld := (hkept.lawful hl).world
    have hlog := hworld.log .info s!"Terminating {next.label}" [] s'
    have hsignal := hworld.signal .terminate (w.info s!"Terminating {next.label}" s')
    dsimp only at hkept ⊢
    rcases hsent : w.signal next.pid .terminate (w.info s!"Terminating {next.label}" s') with
      ⟨_ | _, s''⟩
    all_goals rw [hsent] at hsignal
    · have hkill : w.Grows next.pid s'' (w.kill next.pid (w.warn _ s'')).2 :=
        hworld.log_kill .warn "kill -TERM failed, falling back to SIGKILL" s''
      have hgrows := (hlog.trans hsignal).trans hkill
      dsimp only
      split
      all_goals
        next hresult =>
        rw [hresult] at hgrows
        exact hkept.trans (.of_grows hgrows)
    · exact hkept.trans (.of_grows (hlog.trans hsignal))
  · exact hkept

theorem kept_kill (hl : h.Lawful w) (s : σ) :
    Kept w h s (h.kill w s).2.1 (h.kill w s).2.2 := by
  have hkept := kept_tryStatus hl s
  unfold kill
  rcases hresult : h.tryStatus w s with ⟨e | _ | status, next, s'⟩
  all_goals rw [hresult] at hkept
  · exact hkept
  · have hgrows : w.Grows next.pid s' (w.kill next.pid (w.info s!"Killing {next.label}" s')).2 :=
      (hkept.lawful hl).world.log_kill .info _ s'
    dsimp only at hkept ⊢
    split
    all_goals
      next hresult =>
      rw [hresult] at hgrows
      exact hkept.trans (.of_grows hgrows)
  · exact hkept

theorem kept_awaitEnd (hl : h.Lawful w) (s : σ) :
    Kept w h s (h.awaitEnd w s).2.1 (h.awaitEnd w s).2.2 := by
  have hawait := hl.world.await s
  unfold awaitEnd
  cases hstatus : h.status with
  | some status => exact .refl h s
  | none =>
    rcases hresult : w.await h.pid s with ⟨fault | status, s'⟩
    all_goals rw [hresult] at hawait
    · exact .of_grows hawait
    · exact kept_status hstatus hawait

theorem finishCapture_same (h : Handle σ) (s : σ) :
    (h.finishCapture w s).1 = { h with capturing := (h.finishCapture w s).1.capturing } := by
  unfold finishCapture
  split_ifs
  · dsimp only
    split <;> rfl
  · rfl

theorem finishCapture_preserves {P : σ → Prop} (hpause : ∀ s, P s → P (w.pause s))
    (hsleep : ∀ span s, P s → P (w.sleep span s)) (hwarn : ∀ message s, P s → P (w.warn message s))
    (h : Handle σ) (hs : P s) : P (h.finishCapture w s).2 := by
  unfold finishCapture
  split_ifs
  · have hpoll : P (Polling.poll w.toSurroundings
        (fun s => (if h.outputEnded w s then some () else none, s)) h.config.drainGrace
        h.config.pollInterval s).2 :=
      Polling.poll_keeps (fun _ hs => hs) hpause (hsleep _) _ hs
    dsimp only
    split
    · next hresult =>
      rw [hresult] at hpoll
      exact hpoll
    · next hresult =>
      rw [hresult] at hpoll
      exact hwarn _ _ hpoll
  · exact hs

theorem kept_finishCapture (hl : h.Lawful w) (s : σ) :
    Kept w h s (h.finishCapture w s).1 (h.finishCapture w s).2 := by
  have hgrows : w.Grows h.pid s (h.finishCapture w s).2 :=
    finishCapture_preserves (fun _ hs => hs.trans (hl.world.pause _))
      (fun _ _ hs => hs.trans (hl.world.sleep _ _)) (fun _ _ hs => hs.trans (hl.world.log _ _ _ _))
      h (.refl s)
  rw [finishCapture_same]
  exact { Kept.of_grows hgrows with same := rfl }

theorem recordUnmatched_none (hnone : h.unmatched = none)
    (hle : h.cursor.position ≤ (h.output w s).length) (status : ExitStatus) :
    (h.recordUnmatched w status s).1.unmatched =
        some ((h.output w s).textBetween h.cursor.position (h.output w s).length) ∧
      (h.recordUnmatched w status s).1.cursor = ⟨(h.output w s).length⟩ := by
  have hrest : h.cursor.unread (h.output w s) =
      (h.output w s).textBetween h.cursor.position (h.output w s).length := by
    rw [Cursor.unread, Buffer.textBetween, Cursor.unreadBytes, List.take_of_length_le]
    rw [List.length_drop, Buffer.length_bytes]
  have hend : h.cursor.position + (h.cursor.unreadBytes (h.output w s)).length =
      (h.output w s).length := by
    rw [Cursor.length_unreadBytes, Nat.add_sub_cancel' hle]
  rw [recordUnmatched, hnone]
  exact ⟨congrArg some hrest, congrArg Cursor.mk hend⟩

theorem kept_recordUnmatched (hl : h.Lawful w) (status : ExitStatus) (s : σ) :
    Kept w h s (h.recordUnmatched w status s).1 (h.recordUnmatched w status s).2 := by
  unfold recordUnmatched
  cases hunmatched : h.unmatched with
  | some text => exact .refl h s
  | none =>
    have hgrows : w.Grows h.pid s (w.info s!"Process {h.label} exited with code {status.number}"
        (if (h.cursor.unread (h.output w s)).isEmpty then s
          else w.warn s!"Unmatched stdout of {h.name}:\n{h.cursor.unread (h.output w s)}" s)) := by
      refine World.Grows.trans ?_ (hl.world.log _ _ _ _)
      split_ifs
      · exact .refl s
      · exact hl.world.log _ _ _ s
    refine { Kept.of_grows hgrows with
      same := rfl
      unmatched := fun text htext => by simp [hunmatched] at htext
      position := Nat.le_add_right _ _
      within := fun hle => ?_ }
    have hlength := (hgrows .stdout).length_le
    change h.cursor.position + (h.cursor.unreadBytes (h.output w s)).length ≤ _
    rw [Cursor.length_unreadBytes, Nat.add_sub_cancel' hle]
    exact hlength

theorem kept_expectExit (hl : h.Lawful w) (s : σ) :
    Kept w h s (h.expectExit w s).2.1 (h.expectExit w s).2.2 := by
  have hawait := kept_awaitEnd hl s
  unfold expectExit
  rcases hresult : h.awaitEnd w s with ⟨e | status, next, s'⟩
  all_goals rw [hresult] at hawait
  · exact hawait
  · have hnext := hawait.lawful hl
    have hfinish := kept_finishCapture hnext s'
    exact (hawait.trans hfinish).trans (kept_recordUnmatched (hfinish.lawful hnext) status _)

theorem exitCode_left (h : Handle σ) (s : σ) : (h.exitCode w s).2 = (h.expectExit w s).2 := by
  unfold exitCode
  rcases h.expectExit w s with ⟨_ | _, _, _⟩ <;> rfl

theorem expectExitCode_left (h : Handle σ) (code : Int) (s : σ) :
    (h.expectExitCode w code s).2 = (h.expectExit w s).2 := by
  rw [← exitCode_left, expectExitCode]
  rcases h.exitCode w s with ⟨_ | _, _, _⟩
  · rfl
  · dsimp only
    split_ifs <;> rfl

theorem expectFailureExit_left (h : Handle σ) (s : σ) :
    (h.expectFailureExit w s).2 = (h.expectExit w s).2 := by
  rw [← exitCode_left, expectFailureExit]
  rcases h.exitCode w s with ⟨_ | _ | _, _, _⟩ <;> rfl

/-! ## The moment of the end -/

/-- The state in which what no expectation has consumed is recorded: behind the end of the process
and the time that the capture is given. -/
def captured (h : Handle σ) (w : World σ) (s : σ) : σ :=
  ((h.awaitEnd w s).2.1.finishCapture w (h.awaitEnd w s).2.2).2

theorem awaitEnd_same (h : Handle σ) (s : σ) :
    (h.awaitEnd w s).2.1 = { h with status := (h.awaitEnd w s).2.1.status } := by
  unfold awaitEnd
  cases hstatus : h.status with
  | some status => rfl
  | none => rcases w.await h.pid s with ⟨_ | _, _⟩ <;> rfl

theorem awaitEnd_status {status : ExitStatus} (hok : (h.awaitEnd w s).1 = .ok status) :
    (h.awaitEnd w s).2.1.status = some status := by
  unfold awaitEnd at hok ⊢
  cases hstatus : h.status with
  | some known =>
    rw [hstatus] at hok
    obtain rfl := Except.ok.inj hok
    exact hstatus
  | none =>
    rw [hstatus] at hok
    rcases hresult : w.await h.pid s with ⟨fault | known, s'⟩
    all_goals
      simp only [hresult] at hok
      cases hok
    rfl

theorem expectExit_eq {status : ExitStatus} (hok : (h.awaitEnd w s).1 = .ok status) :
    h.expectExit w s = (.ok status,
      (((h.awaitEnd w s).2.1.finishCapture w (h.awaitEnd w s).2.2).1.recordUnmatched w status
        (h.captured w s))) := by
  unfold expectExit captured
  rcases hresult : h.awaitEnd w s with ⟨e | known, next, s'⟩
  all_goals
    rw [hresult] at hok
    cases hok
  rfl

theorem awaitEnd_of_expectExit {status : ExitStatus} (hok : (h.expectExit w s).1 = .ok status) :
    (h.awaitEnd w s).1 = .ok status := by
  unfold expectExit at hok
  rcases hresult : h.awaitEnd w s with ⟨e | known, next, s'⟩
  all_goals
    rw [hresult] at hok
    cases hok
  rfl

theorem expectExit_failed {e : Failure} (herror : (h.expectExit w s).1 = .error e) :
    (h.expectExit w s).2.1.unmatched = h.unmatched := by
  unfold expectExit at herror ⊢
  have hsame := h.awaitEnd_same (w := w) s
  rcases hresult : h.awaitEnd w s with ⟨e | known, next, s'⟩
  all_goals
    rw [hresult] at herror hsame
    cases herror
  rw [hsame]

theorem awaitEnd_kept (h : Handle σ) (s : σ) :
    (h.awaitEnd w s).2.1.cursor = h.cursor ∧ (h.awaitEnd w s).2.1.unmatched = h.unmatched := by
  rw [awaitEnd_same]
  exact ⟨rfl, rfl⟩

theorem finishCapture_kept (h : Handle σ) (s : σ) :
    (h.finishCapture w s).1.cursor = h.cursor ∧
      (h.finishCapture w s).1.unmatched = h.unmatched := by
  rw [finishCapture_same]
  exact ⟨rfl, rfl⟩

/-- A first wait for the end records what is captured behind the cursor by then, and the cursor
moves to the end of that. -/
theorem expectExit_records (hl : h.Lawful w) {status : ExitStatus} (hnone : h.unmatched = none)
    (hle : h.cursor.position ≤ (h.output w s).length)
    (hok : (h.expectExit w s).1 = .ok status) :
    (h.output w s).Becomes (h.output w (h.captured w s)) ∧
    (h.output w (h.captured w s)).Becomes (h.output w (h.expectExit w s).2.2) ∧
    (h.expectExit w s).2.1.unmatched = some ((h.output w (h.captured w s)).textBetween
      h.cursor.position (h.output w (h.captured w s)).length) ∧
    (h.expectExit w s).2.1.cursor = ⟨(h.output w (h.captured w s)).length⟩ := by
  have hawait := kept_awaitEnd hl s
  have hkept := hawait.trans (kept_finishCapture (hawait.lawful hl) (h.awaitEnd w s).2.2)
  obtain ⟨hcursor, hunmatched⟩ := h.awaitEnd_kept (w := w) s
  obtain ⟨hcursor', hunmatched'⟩ :=
    (h.awaitEnd w s).2.1.finishCapture_kept (w := w) (h.awaitEnd w s).2.2
  rw [expectExit_eq (awaitEnd_of_expectExit hok)]
  -- The handle behind the capture is only used through what is known about it here.
  change Kept w h s _ (h.captured w s) at hkept
  generalize ((h.awaitEnd w s).2.1.finishCapture w (h.awaitEnd w s).2.2).1 = ended at *
  have houtput : ended.output w (h.captured w s) = h.output w (h.captured w s) := by
    rw [output, output, hkept.pid]
  have hwithin := hkept.within hle
  have hrecord := kept_recordUnmatched (hkept.lawful hl) status (h.captured w s)
  obtain ⟨htext, hend⟩ :=
    recordUnmatched_none (hunmatched'.trans (hunmatched.trans hnone)) hwithin status
  rw [houtput, hcursor', hcursor] at htext
  rw [houtput] at hend
  refine ⟨hkept.grows .stdout, ?_, htext, hend⟩
  have hgrows := hrecord.grows .stdout
  rwa [hkept.pid] at hgrows

end Handle
end DaemonDialogue
