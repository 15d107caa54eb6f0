import DaemonDialogue.Proofs.Daemon.Handle
import DaemonDialogue.Trial.Stage

/-!
# Output on a stage

On a stage output is captured whenever time passes. So whatever is done, the streams of a process
only grow, and the handles of its daemons live as handles do.
-/

namespace DaemonDialogue.Trial.Stage

/-! ## Capturing -/

def Captures (f g : Feed) : Prop := g.source = f.source ∧ f.buffer.Becomes g.buffer

theorem captures_collectFeed (s : Stage) (f : Feed) : Captures f (s.collectFeed f).2 := by
  unfold collectFeed
  split_ifs with hclosed
  · exact ⟨rfl, .refl _⟩
  · have hopen : f.buffer.closed = false := Bool.eq_false_of_not_eq_true hclosed
    refine ⟨rfl, ?_⟩
    dsimp only
    split_ifs
    · exact Buffer.becomes_close f.buffer
    · exact (Buffer.becomes_append hopen _).trans (Buffer.becomes_close _)
    · exact .refl f.buffer
    · exact Buffer.becomes_append hopen _

theorem captures_foldl (feeds : List Feed) (s : Stage) (before : List Feed) :
    ∃ captured, List.Forall₂ Captures feeds captured ∧
      (feeds.foldl (fun (p : Stage × List Feed) f =>
        ((p.1.collectFeed f).1, (p.1.collectFeed f).2 :: p.2)) (s, before)).2 =
          captured.reverse ++ before := by
  induction feeds generalizing s before with
  | nil => exact ⟨[], .nil, rfl⟩
  | cons f rest ih =>
    obtain ⟨captured, hcaptured, hfeeds⟩ :=
      ih (s.collectFeed f).1 ((s.collectFeed f).2 :: before)
    refine ⟨(s.collectFeed f).2 :: captured, .cons (captures_collectFeed s f) hcaptured, ?_⟩
    rw [List.foldl_cons, hfeeds, List.reverse_cons, List.append_assoc, List.singleton_append]

theorem captures_collect (s : Stage) : List.Forall₂ Captures s.feeds s.collect.feeds := by
  obtain ⟨captured, hcaptured, hfeeds⟩ := captures_foldl s.feeds s.withTime []
  have hcollect : s.collect.feeds = captured := by
    rw [← List.reverse_reverse captured, ← List.append_nil captured.reverse, ← hfeeds]
    rfl
  rwa [hcollect]

/-! ## Streams -/

variable {s next : Stage} {pid : Nat}

theorem grows_of_captures (h : List.Forall₂ Captures s.feeds next.feeds) :
    world.Grows pid s next := by
  intro channel
  change (s.stream pid channel).Becomes (next.stream pid channel)
  unfold stream
  generalize s.feeds = feeds at h ⊢
  generalize next.feeds = captured at h ⊢
  induction h with
  | nil => exact .refl _
  | @cons f g _ _ hfirst _ ih =>
    rw [List.find?_cons, List.find?_cons, hfirst.1]
    split
    · exact hfirst.2
    · exact ih

theorem grows_of_same (h : next.feeds = s.feeds) : world.Grows pid s next := by
  refine grows_of_captures ?_
  rw [h]
  exact List.forall₂_same.2 fun f _ => ⟨rfl, .refl _⟩

/-- On a stage the streams of a process only grow. -/
theorem world_lawful (pid : Nat) : world.Lawful pid where
  pause s := .refl s
  sleep span s := grows_of_captures
    (captures_collect { s with machine := s.machine.runFor (max span.nanos leastPause) })
  log level message context s := grows_of_same rfl
  write bytes s := by
    refine grows_of_same ?_
    change (s.write pid bytes).2.feeds = s.feeds
    unfold write
    split
    · rfl
    · split <;> rfl
  closeInput s := by
    refine grows_of_same ?_
    change (s.closeInput pid).feeds = s.feeds
    unfold closeInput
    split <;> rfl
  poll s := .refl s
  await s := by
    refine grows_of_captures ?_
    change List.Forall₂ Captures s.feeds (s.await pid).2.feeds
    have hcollect := captures_collect { s with machine := s.machine.runToEnd pid patience }
    unfold await
    dsimp only
    split <;> exact hcollect
  signal signal s := grows_of_same rfl
  kill s := grows_of_same rfl

end DaemonDialogue.Trial.Stage
