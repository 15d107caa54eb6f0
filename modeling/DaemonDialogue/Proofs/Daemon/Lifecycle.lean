import DaemonDialogue.Proofs.Daemon.Handle
import DaemonDialogue.Proofs.Trial.Stage

/-!
# The life of a handle

A test uses a handle in any order, and beside it the daemon writes, ends its output, and ends
itself. Whatever happens: an end that was seen once is known from then on, the rest of the output
is recorded at the first wait for the end and only then, and an input that was closed stays
closed.
-/

namespace DaemonDialogue.Handle

open Daemon (World)

variable {σ : Type} {w : World σ} {h : Handle σ} {s : σ} {status : ExitStatus}

/-! ## Known ends -/

/-- What every question about the end is answered once it is known: always the same, without a
signal and without any other change. -/
structure EndKnown (w : World σ) (h : Handle σ) (s : σ) (status : ExitStatus) : Prop where
  tryStatus : h.tryStatus w s = (.ok (some status), h, s)
  isRunning : h.isRunning w s = (false, h, s)
  terminate : h.terminate w s = (.error (.processExited h.name h.pid), h, s)
  kill : h.kill w s = (.ok (), h, s)
  expectExit : (h.expectExit w s).1 = .ok status
  exitCode : (h.exitCode w s).1 = .ok status.number

theorem endKnown_of_status (hstatus : h.status = some status) (s : σ) :
    EndKnown w h s status := by
  have htry : h.tryStatus w s = (.ok (some status), h, s) := by rw [Handle.tryStatus, hstatus]
  have hawait : (h.awaitEnd w s).1 = .ok status := by rw [awaitEnd, hstatus]
  have hexit := expectExit_eq hawait
  exact {
    tryStatus := htry
    isRunning := by rw [Handle.isRunning, htry]
    terminate := by rw [Handle.terminate, htry]
    kill := by rw [Handle.kill, htry]
    expectExit := by rw [hexit]
    exitCode := by rw [Handle.exitCode, hexit] }

theorem status_of_tryStatus (hsees : (h.tryStatus w s).1 = .ok (some status)) :
    (h.tryStatus w s).2.1.status = some status := by
  unfold Handle.tryStatus at hsees ⊢
  cases hstatus : h.status with
  | some known =>
    rw [hstatus] at hsees
    cases hsees
    exact hstatus
  | none =>
    rw [hstatus] at hsees
    rcases hresult : w.poll h.pid s with ⟨fault | known, s'⟩
    all_goals
      simp only [hresult] at hsees
      cases hsees
    rfl

theorem status_of_expectExit (hl : h.Lawful w) (hsees : (h.expectExit w s).1 = .ok status) :
    (h.expectExit w s).2.1.status = some status := by
  have hawait := awaitEnd_of_expectExit hsees
  have hkept := (kept_awaitEnd hl s).lawful hl
  have hfinish := kept_finishCapture hkept (h.awaitEnd w s).2.2
  have hrecord := kept_recordUnmatched (hfinish.lawful hkept) status (h.captured w s)
  rw [expectExit_eq hawait]
  exact hrecord.status _ (hfinish.status _ (awaitEnd_status hawait))

/-- Neither asks nor forces a process to end that is seen to have ended. -/
theorem left_of_ended (htry : (h.tryStatus w s).1 = .ok (some status)) :
    (h.terminate w s).2 = (h.tryStatus w s).2 ∧ (h.kill w s).2 = (h.tryStatus w s).2 := by
  unfold Handle.terminate Handle.kill
  rcases hresult : h.tryStatus w s with ⟨e | _ | known, next, s'⟩
  all_goals
    rw [hresult] at htry
    cases htry
  exact ⟨rfl, rfl⟩

/-- To ask or force a process to end changes a handle by the look for the end only. -/
theorem terminate_handle (h : Handle σ) (s : σ) :
    (h.terminate w s).2.1 = (h.tryStatus w s).2.1 := by
  unfold Handle.terminate
  rcases h.tryStatus w s with ⟨e | _ | status, next, s'⟩
  · rfl
  · dsimp only
    split
    · rfl
    · split <;> rfl
  · rfl

theorem kill_handle (h : Handle σ) (s : σ) : (h.kill w s).2.1 = (h.tryStatus w s).2.1 := by
  unfold Handle.kill
  rcases h.tryStatus w s with ⟨e | _ | status, next, s'⟩
  · rfl
  · dsimp only
    split <;> rfl
  · rfl

theorem tryStatus_unmatched (h : Handle σ) (s : σ) :
    (h.tryStatus w s).2.1.unmatched = h.unmatched := by
  unfold Handle.tryStatus
  cases hstatus : h.status with
  | some status => rfl
  | none => rcases w.poll h.pid s with ⟨_ | _, _⟩ <;> rfl

/-! ## Operations -/

/-- An operation of a test on a handle. -/
inductive Operation
  | writeLine (line : String)
  | closeInput
  | render (source : String)
  | expect (source : String)
  | expectLiteral (text : String) (timeout : Span)
  | expectPattern (channel : Channel) (source : String) (timeout : Span)
  | isRunning
  | tryStatus
  | terminate
  | kill
  | expectExit
  | exitCode
  | expectExitCode (code : Int)
  | expectFailureExit

namespace Operation

def apply (w : World σ) (p : Handle σ × σ) : Operation → Handle σ × σ
  | .writeLine line => (p.1, (p.1.writeLine w line p.2).2)
  | .closeInput => p.1.closeInput w p.2
  | .render source => (p.1, (p.1.render w source p.2).2)
  | .expect source => (p.1.expect w source p.2).2
  | .expectLiteral text timeout => (p.1.expectLiteral w text timeout p.2).2
  | .expectPattern channel source timeout =>
    (p.1, (p.1.expectPattern w channel source timeout p.2).2)
  | .isRunning => (p.1.isRunning w p.2).2
  | .tryStatus => (p.1.tryStatus w p.2).2
  | .terminate => (p.1.terminate w p.2).2
  | .kill => (p.1.kill w p.2).2
  | .expectExit => (p.1.expectExit w p.2).2
  | .exitCode => (p.1.exitCode w p.2).2
  | .expectExitCode code => (p.1.expectExitCode w code p.2).2
  | .expectFailureExit => (p.1.expectFailureExit w p.2).2

def awaitsEnd : Operation → Bool
  | .expectExit | .exitCode | .expectExitCode _ | .expectFailureExit => true
  | _ => false

def looksForEnd : Operation → Bool
  | .isRunning | .tryStatus | .terminate | .kill => true
  | _ => false

/-- The status that an operation sees, by a look or a wait for the end that does not fail. -/
def sees (w : World σ) (p : Handle σ × σ) (op : Operation) : Option ExitStatus :=
  if op.awaitsEnd then (p.1.expectExit w p.2).1.toOption
  else if op.looksForEnd then (p.1.tryStatus w p.2).1.toOption.bind id
  else none

variable {p : Handle σ × σ} {op : Operation}

theorem apply_awaitsEnd (h : op.awaitsEnd = true) : op.apply w p = (p.1.expectExit w p.2).2 := by
  cases op with
  | expectExit => rfl
  | exitCode => exact exitCode_left p.1 p.2
  | expectExitCode code => exact expectExitCode_left p.1 code p.2
  | expectFailureExit => exact expectFailureExit_left p.1 p.2
  | _ => cases h

theorem kept (hl : p.1.Lawful w) (op : Operation) :
    Kept w p.1 p.2 (op.apply w p).1 (op.apply w p).2 := by
  cases hawaits : op.awaitsEnd with
  | true =>
    rw [apply_awaitsEnd hawaits]
    exact kept_expectExit hl p.2
  | false =>
    cases op with
    | writeLine line => exact .of_grows (hl.writeLine line p.2)
    | closeInput => exact kept_closeInput hl p.2
    | render source => exact .of_grows (hl.render source p.2)
    | expect source => exact kept_expect hl source p.2
    | expectLiteral text timeout => exact kept_expectLiteral hl text timeout p.2
    | expectPattern channel source timeout =>
      exact .of_grows (hl.expectPattern channel source timeout p.2)
    | isRunning => exact kept_isRunning hl p.2
    | tryStatus => exact kept_tryStatus hl p.2
    | terminate => exact kept_terminate hl p.2
    | kill => exact kept_kill hl p.2
    | _ => cases hawaits

theorem status_of_sees (hl : p.1.Lawful w) (hsees : op.sees w p = some status) :
    (op.apply w p).1.status = some status := by
  unfold sees at hsees
  split_ifs at hsees with hawaits hlooks
  · rw [apply_awaitsEnd hawaits]
    refine status_of_expectExit hl ?_
    rcases hresult : (p.1.expectExit w p.2).1 with _ | known
    all_goals
      rw [hresult] at hsees
      cases hsees
    rfl
  · have htry : (p.1.tryStatus w p.2).1 = .ok (some status) := by
      rcases hresult : (p.1.tryStatus w p.2).1 with _ | _ | known
      all_goals
        rw [hresult] at hsees
        cases hsees
      rfl
    have hstatus := status_of_tryStatus htry
    obtain ⟨hterminate, hkill⟩ := left_of_ended htry
    cases op with
    | isRunning => exact hstatus
    | tryStatus => exact hstatus
    | terminate => exact (congrArg (·.1.status) hterminate).trans hstatus
    | kill => exact (congrArg (·.1.status) hkill).trans hstatus
    | _ => cases hlooks

theorem sees_awaitsEnd (hawaits : op.awaitsEnd = true) :
    op.sees w p = (p.1.expectExit w p.2).1.toOption := if_pos hawaits

/-- Nothing is recorded but by a wait for the end. -/
theorem unmatched_apply (hawaits : op.awaitsEnd = false) :
    (op.apply w p).1.unmatched = p.1.unmatched := by
  cases op with
  | writeLine line => rfl
  | closeInput =>
    change (p.1.closeInput w p.2).1.unmatched = _
    unfold Handle.closeInput
    split_ifs <;> rfl
  | render source => rfl
  | expect source =>
    change (p.1.expect w source p.2).2.1.unmatched = _
    unfold Handle.expect
    rcases p.1.render w source p.2 with ⟨_ | _, _⟩ <;> rfl
  | expectLiteral text timeout => rfl
  | expectPattern channel source timeout => rfl
  | isRunning => exact tryStatus_unmatched p.1 p.2
  | tryStatus => exact tryStatus_unmatched p.1 p.2
  | terminate =>
    exact (congrArg unmatched (terminate_handle p.1 p.2)).trans (tryStatus_unmatched p.1 p.2)
  | kill => exact (congrArg unmatched (kill_handle p.1 p.2)).trans (tryStatus_unmatched p.1 p.2)
  | _ => cases hawaits

theorem unmatched_of_sees_none (hnone : p.1.unmatched = none)
    (hsees : op.awaitsEnd = true → op.sees w p = none) : (op.apply w p).1.unmatched = none := by
  cases hawaits : op.awaitsEnd with
  | false => rw [unmatched_apply hawaits, hnone]
  | true =>
    have hresult := hsees hawaits
    rw [sees_awaitsEnd hawaits] at hresult
    rw [apply_awaitsEnd hawaits]
    cases hexit : (p.1.expectExit w p.2).1 with
    | ok status => simp [hexit, Except.toOption] at hresult
    | error e => rw [expectExit_failed hexit, hnone]

end Operation

/-! ## Lives -/

/-- What happens to a handle: an operation, or anything that lets the world go on without it. -/
inductive Move (σ : Type)
  | use (op : Operation)
  | change (s : σ)

namespace Move

def apply (w : World σ) (p : Handle σ × σ) : Move σ → Handle σ × σ
  | .use op => op.apply w p
  | .change s => (p.1, s)

/-- The world goes on by output of the process, the end of its streams, and whatever else. -/
def Allowed (w : World σ) (p : Handle σ × σ) : Move σ → Prop
  | .use _ => True
  | .change s => w.Grows p.1.pid p.2 s

theorem kept {p : Handle σ × σ} {move : Move σ} (hl : p.1.Lawful w) (hmove : move.Allowed w p) :
    Kept w p.1 p.2 (move.apply w p).1 (move.apply w p).2 := by
  cases move with
  | use op => exact op.kept hl
  | change s => exact .of_grows hmove

end Move

def run (w : World σ) (p : Handle σ × σ) (moves : List (Move σ)) : Handle σ × σ :=
  moves.foldl (fun p move => move.apply w p) p

/-- Does the world only let output grow between the operations? -/
def Allowed (w : World σ) (p : Handle σ × σ) : List (Move σ) → Prop
  | [] => True
  | move :: rest => move.Allowed w p ∧ Allowed w (move.apply w p) rest

variable {p : Handle σ × σ} {moves before behind : List (Move σ)} {op : Operation}

theorem run_append (p : Handle σ × σ) (before behind : List (Move σ)) :
    run w p (before ++ behind) = run w (run w p before) behind :=
  List.foldl_append

theorem allowed_append : Allowed w p (before ++ behind) ↔
    Allowed w p before ∧ Allowed w (run w p before) behind := by
  induction before generalizing p with
  | nil => exact (iff_of_eq (true_and _)).symm
  | cons move rest ih => exact (and_congr_right fun _ => ih).trans and_assoc.symm

/-- What is known for good is kept over a whole life. -/
theorem kept_run (hl : p.1.Lawful w) (hmoves : Allowed w p moves) :
    Kept w p.1 p.2 (run w p moves).1 (run w p moves).2 := by
  induction moves generalizing p with
  | nil => exact .refl p.1 p.2
  | cons move rest ih =>
    have hmove := Move.kept hl hmoves.1
    exact hmove.trans (ih (hmove.lawful hl) hmoves.2)

/-! ## Ends of output and input -/

/-- The cursor is at the end of an output that has ended: every text fails, and leaves it there. -/
structure AtEnd (w : World σ) (h : Handle σ) (s : σ) (b : Buffer) : Prop where
  output : h.output w s = b
  cursor : h.cursor = ⟨b.length⟩
  expectLiteral : ∀ text timeout, text ≠ "" →
    (h.expectLiteral w text timeout s).1 = .error (.streamClosed .stdout text b.snapshot) ∧
      (h.expectLiteral w text timeout s).2.1 = h

theorem atEnd_of_closed (hl : h.Lawful w) (hclosed : (h.output w s).closed = true)
    (hcursor : h.cursor = ⟨(h.output w s).length⟩) : AtEnd w h s (h.output w s) := by
  refine ⟨rfl, hcursor, fun text timeout htext => ?_⟩
  have hnone : Cursor.findRange? (Utf8.encode text) (h.cursor.unreadBytes (h.output w s)) = none := by
    have hunread : h.cursor.unreadBytes (h.output w s) = [] := by
      rw [← List.length_eq_zero_iff, Cursor.length_unreadBytes, hcursor, Nat.sub_self]
    rw [hunread, Cursor.findRange?_eq_none_iff]
    intro hinfix
    exact htext (Utf8.encode_eq_nil_iff.1 (Newline.normalize_eq_nil_iff.1
      (List.infix_nil.1 hinfix)))
  have hsame : ∀ before after, w.Grows h.pid before after → h.output w before = h.output w s →
      h.output w after = h.output w s := by
    intro before after hgrows hbefore
    exact ((hgrows .stdout).closed ((congrArg Buffer.closed hbefore).trans hclosed)).trans hbefore
  have hwait : Match.awaitLiteral w.toSurroundings (w.stream h.pid .stdout) .stdout text timeout
      h.config.pollInterval h.cursor (w.trace s!"Expecting on stdout: {quoted text}" s) = _ :=
    Match.awaitLiteral_closed (fun s' hs' => hsame s' _ (hl.world.pause s') hs') hclosed hnone
      (hsame s _ (hl.world.log _ _ _ s) rfl)
  unfold Handle.expectLiteral
  dsimp only
  rw [hwait]
  exact ⟨rfl, rfl⟩

theorem closeInput_closed (h : Handle σ) (s : σ) : (h.closeInput w s).1.inputOpen = false := by
  unfold Handle.closeInput
  split_ifs with hopen
  · rfl
  · exact Bool.eq_false_of_not_eq_true hopen

/-- A closed input takes no line, and templates pass over it. -/
structure InputClosed (w : World σ) (h : Handle σ) (s : σ) : Prop where
  closeInput : h.closeInput w s = (h, s)
  writeLine : ∀ line, h.writeLine w line s = (.error (.system .inputClosed), s)
  inputLine : ∀ line, (h.scope w).act s "InputLine" line =
    (w.debug s!"Dropped input {quoted line} for {h.name}: {SystemFault.inputClosed.message}" s,
      .ok "")

theorem inputClosed_of_not_open (hopen : h.inputOpen = false) (s : σ) : InputClosed w h s := by
  have hwrite : ∀ line, h.writeInput w line s = (.error .inputClosed, s) := fun line => by
    simp [writeInput, hopen]
  refine ⟨by simp [Handle.closeInput, hopen], fun line => ?_, fun line => ?_⟩
  · rw [Handle.writeLine, hwrite]
  · change h.inputLine w line s = _
    rw [inputLine, hwrite]
    rfl

/-! ## Whole lives -/

/-- A handle as it is when its process has been started: nothing is known of its end, and nothing
of its output is consumed. -/
structure Fresh (h : Handle σ) : Prop where
  status : h.status = none
  unmatched : h.unmatched = none
  cursor : h.cursor = {}

theorem Fresh.within (hfresh : p.1.Fresh) : p.1.cursor.position ≤ (p.1.output w p.2).length := by
  rw [hfresh.cursor]
  exact Nat.zero_le _

/-- As long as no wait for the end succeeds, nothing is recorded. -/
theorem unmatched_run (hnone : p.1.unmatched = none)
    (hsees : ∀ before op behind, moves = before ++ .use op :: behind → op.awaitsEnd = true →
      op.sees w (run w p before) = none) : (run w p moves).1.unmatched = none := by
  induction moves generalizing p with
  | nil => exact hnone
  | cons move rest ih =>
    refine ih (p := move.apply w p) ?_ fun before op behind hrest => ?_
    · cases move with
      | use op => exact op.unmatched_of_sees_none hnone (hsees [] op rest rfl)
      | change s => exact hnone
    · exact hsees (move :: before) op behind (by rw [hrest, List.cons_append])

theorem kept_around (hl : p.1.Lawful w) (hmoves : Allowed w p (before ++ .use op :: behind)) :
    (run w p before).1.Lawful w ∧
    Kept w p.1 p.2 (run w p before).1 (run w p before).2 ∧
    Kept w (op.apply w (run w p before)).1 (op.apply w (run w p before)).2
      (run w p (before ++ .use op :: behind)).1 (run w p (before ++ .use op :: behind)).2 := by
  obtain ⟨hbefore, -, hbehind⟩ := allowed_append.1 hmoves
  have hkept := kept_run hl hbefore
  have hnow := hkept.lawful hl
  refine ⟨hnow, hkept, ?_⟩
  rw [run_append]
  exact kept_run ((op.kept hnow).lawful hnow) hbehind

/-- The first wait for the end that succeeds records what is captured behind the cursor by then,
for good. If the output has ended by then, the cursor never moves again. -/
theorem recorded_at_end (hl : p.1.Lawful w) (hfresh : p.1.Fresh)
    (hmoves : Allowed w p (before ++ .use op :: behind)) (hawaits : op.awaitsEnd = true)
    (hsees : (op.sees w (run w p before)).isSome = true)
    (hnone : (run w p before).1.unmatched = none) :
    let now := run w p before
    let last := run w p (before ++ .use op :: behind)
    let b := now.1.output w (now.1.captured w now.2)
    (now.1.output w now.2).Becomes b ∧ b.Becomes (last.1.output w last.2) ∧
    last.1.unmatched = some (b.textBetween now.1.cursor.position b.length) ∧
    (op.apply w now).1.cursor = ⟨b.length⟩ ∧
    (b.closed = true → AtEnd w last.1 last.2 b) := by
  intro now last b
  obtain ⟨hnow, hkept, hlast⟩ := kept_around hl hmoves
  have hop := op.kept (p := now) hnow
  obtain ⟨status, hstatus⟩ := Option.isSome_iff_exists.1 hsees
  rw [Operation.sees_awaitsEnd hawaits] at hstatus
  have hok : (now.1.expectExit w now.2).1 = .ok status := by
    rcases hresult : (now.1.expectExit w now.2).1 with e | known
    all_goals
      rw [hresult] at hstatus
      cases hstatus
    rfl
  obtain ⟨hgrows, hgrows', htext, hcursor⟩ :=
    expectExit_records hnow hnone (hkept.within hfresh.within) hok
  rw [← Operation.apply_awaitsEnd hawaits] at hgrows' htext hcursor
  have houtput : b.Becomes ((op.apply w now).1.output w (op.apply w now).2) := by
    rw [output, hop.pid]
    exact hgrows'
  have hrest : ((op.apply w now).1.output w (op.apply w now).2).Becomes (last.1.output w last.2) := by
    rw [output, output, hlast.pid]
    exact hlast.grows .stdout
  refine ⟨hgrows, houtput.trans hrest, hlast.unmatched _ htext, hcursor, fun hclosed => ?_⟩
  have hsame := houtput.closed hclosed
  have hsame' := (houtput.trans hrest).closed hclosed
  have hend : last.1.cursor = ⟨b.length⟩ := by
    rw [← hcursor]
    refine hlast.cursor_eq (by rw [hsame]; exact hclosed) ?_
    rw [hcursor, hsame]
  have hatEnd := atEnd_of_closed (hlast.lawful (hop.lawful hnow)) (by rw [hsame']; exact hclosed)
    (by rw [hsame']; exact hend)
  rwa [hsame'] at hatEnd

/-- The life of a handle from its start, by any operations in any order, while its process writes
and ends as it will. An end that an operation has seen is known from then on: every question about
it has the same answer, and nothing is sent to a process that is known to have ended. What no
expectation has consumed is recorded at the first wait for the end that succeeds, as the text
between the cursor and the end of what is captured by then, and never changes; if the output has
ended by then, the cursor stays at its end and every text is missed at once. An input that was
closed takes no further line. -/
theorem life_of_handle (w : World σ) (p : Handle σ × σ) (moves : List (Move σ))
    (hl : p.1.Lawful w) (hfresh : p.1.Fresh) (hmoves : Allowed w p moves) :
    let last := run w p moves
    last.1.name = p.1.name ∧ last.1.pid = p.1.pid ∧
    (∀ before op behind status, moves = before ++ .use op :: behind →
      op.sees w (run w p before) = some status → EndKnown w last.1 last.2 status) ∧
    (last.1.unmatched = none ↔ ∀ before op behind, moves = before ++ .use op :: behind →
      op.awaitsEnd = true → op.sees w (run w p before) = none) ∧
    (∀ before op behind, moves = before ++ .use op :: behind → op.awaitsEnd = true →
      (op.sees w (run w p before)).isSome = true → (run w p before).1.unmatched = none →
      let now := run w p before
      let b := now.1.output w (now.1.captured w now.2)
      (now.1.output w now.2).Becomes b ∧ b.Becomes (last.1.output w last.2) ∧
      last.1.unmatched = some (b.textBetween now.1.cursor.position b.length) ∧
      (op.apply w now).1.cursor = ⟨b.length⟩ ∧
      (b.closed = true → AtEnd w last.1 last.2 b)) ∧
    (SystemFault.isBrokenPipe .inputClosed = true ∧
      ∀ before behind, moves = before ++ .use .closeInput :: behind →
        InputClosed w last.1 last.2) := by
  intro last
  have hwhole := kept_run hl hmoves
  refine ⟨hwhole.name, hwhole.pid, ?_, ⟨?_, unmatched_run hfresh.unmatched⟩, ?_, rfl, ?_⟩
  · rintro before op behind status rfl hsees
    obtain ⟨hnow, -, hlast⟩ := kept_around hl hmoves
    exact endKnown_of_status (hlast.status _ (Operation.status_of_sees hnow hsees)) _
  · rintro hunset before op behind rfl hawaits
    obtain ⟨hnow, -, hlast⟩ := kept_around hl hmoves
    cases hsees : op.sees w (run w p before) with
    | none => rfl
    | some status =>
      cases hunmatched : (run w p before).1.unmatched with
      | none =>
        have hrecord := recorded_at_end hl hfresh hmoves hawaits (by rw [hsees]; rfl) hunmatched
        exact absurd (hunset.symm.trans hrecord.2.2.1) (by simp)
      | some text =>
        have hstill := hlast.unmatched _ ((op.kept hnow).unmatched _ hunmatched)
        exact absurd (hunset.symm.trans hstill) (by simp)
  · rintro before op behind rfl hawaits hsees hnone
    exact recorded_at_end hl hfresh hmoves hawaits hsees hnone
  · rintro before behind rfl
    obtain ⟨-, -, hlast⟩ := kept_around hl hmoves
    exact inputClosed_of_not_open (hlast.input (closeInput_closed _ _)) _

/-- A stage with a daemon, what is captured of its output, and its end. -/
def stageOf (output : String) (closed : Bool) (ended : Option ExitStatus) : Trial.Stage where
  machine := { processes := [{ pid := 7, ended }] }
  feeds := [
    { source := ⟨.stdout, "d", 7⟩, pipe := 0, buffer := ⟨(Utf8.encode output).toArray, closed⟩ },
    { source := ⟨.stderr, "d", 7⟩, pipe := 1, buffer := ⟨#[], closed⟩ }]
  logger := { testName := "t" }

/-- A daemon that has written a part of its output, with the handle of its start. -/
def startOf (output : String) : Handle Trial.Stage × Trial.Stage :=
  ({ name := "d", program := "d", arguments := [], workingDir := "/", pid := 7 },
    stageOf output false none)

/-- The daemon is asked whether it runs, and then writes the rest of its output and ends with
code 3, which is seen before it is waited for. -/
theorem life_of_handle_on_stage :
    let last := run Trial.Stage.world (startOf "ok")
      [.use .isRunning, .use (.expectLiteral "ok" ⟨0⟩), .use .closeInput,
        .change (stageOf "ok rest" true (some (.code 3))), .use .isRunning, .use .expectExit]
    EndKnown Trial.Stage.world last.1 last.2 (.code 3) ∧ last.1.unmatched = some " rest" ∧
      last.1.cursor = ⟨7⟩ ∧ InputClosed Trial.Stage.world last.1 last.2 := by
  obtain ⟨-, -, hend, -, hrecord, -, hclosed⟩ :=
    life_of_handle Trial.Stage.world (startOf "ok")
      [.use .isRunning, .use (.expectLiteral "ok" ⟨0⟩), .use .closeInput,
        .change (stageOf "ok rest" true (some (.code 3))), .use .isRunning, .use .expectExit]
      ⟨Trial.Stage.world_lawful 7, fun _ _ _ _ hcall => by cases hcall⟩ ⟨rfl, rfl, rfl⟩
      ⟨trivial, trivial, trivial, fun channel => by cases channel <;> exact ⟨by decide, by decide⟩,
        trivial, trivial, trivial⟩
  have hrest := hrecord
    [.use .isRunning, .use (.expectLiteral "ok" ⟨0⟩), .use .closeInput,
      .change (stageOf "ok rest" true (some (.code 3))), .use .isRunning]
    .expectExit [] rfl rfl rfl rfl
  refine ⟨hend [.use .isRunning, .use (.expectLiteral "ok" ⟨0⟩), .use .closeInput,
      .change (stageOf "ok rest" true (some (.code 3))), .use .isRunning]
    .expectExit [] (.code 3) rfl rfl, ?_, ?_,
    hclosed [.use .isRunning, .use (.expectLiteral "ok" ⟨0⟩)] _ rfl⟩
  · rw [hrest.2.2.1]
    rfl
  · rw [(hrest.2.2.2.2 rfl).cursor]
    rfl

end DaemonDialogue.Handle
