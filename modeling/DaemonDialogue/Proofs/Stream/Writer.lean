import DaemonDialogue.Proofs.Stream.Search
import DaemonDialogue.Stream.Capture

/-!
# Writers

A stream grows by further output, up to its end. The writer of a stream appends its pieces one
after the other and then closes the stream. So a stream that is closed holds all that it ever
will, and what a capture does to its buffer is the work of a writer.
-/

namespace DaemonDialogue

/-! ## Growing -/

namespace Buffer

/-- Has a stream become another by further output, unless it had ended? -/
structure Becomes (b next : Buffer) : Prop where
  bytes : b.bytes <+: next.bytes
  closed : b.closed = true → next = b

variable {b next last : Buffer}

theorem Becomes.refl (b : Buffer) : b.Becomes b := ⟨List.prefix_rfl, fun _ => rfl⟩

theorem Becomes.trans (h : b.Becomes next) (hnext : next.Becomes last) : b.Becomes last := by
  refine ⟨h.bytes.trans hnext.bytes, fun hclosed => ?_⟩
  have hsame := h.closed hclosed
  exact (hnext.closed (hsame ▸ hclosed)).trans hsame

theorem Becomes.length_le (h : b.Becomes next) : b.length ≤ next.length := by
  rw [← length_bytes, ← length_bytes]
  exact h.bytes.length_le

theorem becomes_append (h : b.closed = false) (piece : List UInt8) : b.Becomes (b.append piece) :=
  ⟨by rw [bytes_append]; exact List.prefix_append _ _, fun hclosed => by simp [h] at hclosed⟩

theorem becomes_close (b : Buffer) : b.Becomes b.close := by
  refine ⟨List.prefix_rfl, fun hclosed => ?_⟩
  rw [close, ← hclosed]

end Buffer

/-! ## Writing -/

/-- A stream and the pieces that are still to be written to it before it is closed. -/
structure Writer where
  buffer : Buffer := {}
  pieces : List (List UInt8)
  deriving Repr

namespace Writer

/-- Writes the next piece, or closes the stream behind the last one. -/
def step (w : Writer) : Writer :=
  match w.pieces with
  | [] => { w with buffer := w.buffer.close }
  | piece :: rest => ⟨w.buffer.append piece, rest⟩

def run (w : Writer) : Nat → Writer
  | 0 => w
  | n + 1 => w.step.run n

def whole (w : Writer) : List UInt8 := w.buffer.bytes ++ w.pieces.flatten

/-- Nothing is left to write to a stream that is closed. -/
def Sound (w : Writer) : Prop := w.buffer.closed = true → w.pieces = []

theorem run_add (w : Writer) (n m : Nat) : (w.run n).run m = w.run (n + m) := by
  induction n generalizing w with
  | zero => simp [run]
  | succ n ih => rw [Nat.succ_add, run, run, ih]

theorem Sound.step {w : Writer} (h : w.Sound) : w.step.Sound := by
  intro hclosed
  unfold Writer.step at hclosed ⊢
  split
  · assumption
  · next piece rest hpieces =>
    simp only [hpieces] at hclosed
    exact absurd (h hclosed) (by simp [hpieces])

theorem Sound.run {w : Writer} (h : w.Sound) (n : Nat) : (w.run n).Sound := by
  induction n generalizing w with
  | zero => exact h
  | succ n ih => exact ih h.step

@[simp] theorem whole_step (w : Writer) : w.step.whole = w.whole := by
  unfold step whole
  split
  · next h => simp [h]
  · next piece rest h => simp [h]

@[simp] theorem whole_run (w : Writer) (n : Nat) : (w.run n).whole = w.whole := by
  induction n generalizing w with
  | zero => rfl
  | succ n ih => rw [run, ih, whole_step]

theorem bytes_prefix_step (w : Writer) : w.buffer.bytes <+: w.step.buffer.bytes := by
  unfold step
  split <;> simp

theorem bytes_prefix_run (w : Writer) (n : Nat) : w.buffer.bytes <+: (w.run n).buffer.bytes := by
  induction n generalizing w with
  | zero => exact List.prefix_rfl
  | succ n ih => exact w.bytes_prefix_step.trans (ih w.step)

theorem Sound.bytes_eq_whole {w : Writer} (h : w.Sound) (hclosed : w.buffer.closed = true) :
    w.buffer.bytes = w.whole := by
  simp [whole, h hclosed]

theorem closed_step {w : Writer} (h : w.buffer.closed = true) : w.step.buffer.closed = true := by
  unfold step
  split
  · rfl
  · exact h

theorem closed_run {w : Writer} (h : w.buffer.closed = true) (n : Nat) :
    (w.run n).buffer.closed = true := by
  induction n generalizing w with
  | zero => exact h
  | succ n ih => exact ih (closed_step h)

end Writer

namespace Capture

/-- The pieces that a capture reads before its stream ends or fails. -/
def piecesRead : List ReadResult → List (List UInt8)
  | [] => []
  | .bytes [] :: _ => []
  | .bytes piece :: rest => piece :: piecesRead rest
  | .interrupted :: rest => piecesRead rest
  | .failed _ :: _ => []

/-- A capture writes what it reads and closes its buffer behind it. -/
theorem run_buffer (source : CaptureSource) (c : Capture) (reads : List ReadResult) :
    (run source c reads).buffer =
      ((⟨c.buffer, piecesRead reads⟩ : Writer).run ((piecesRead reads).length + 1)).buffer := by
  fun_induction run source c reads with
  | case1 => rfl
  | case2 => rfl
  | case3 c piece rest hne ih =>
    rw [ih]
    simp [piecesRead, Writer.run, Writer.step, Capture.take]
  | case4 c rest ih => exact ih
  | case5 => rfl

end Capture
end DaemonDialogue
