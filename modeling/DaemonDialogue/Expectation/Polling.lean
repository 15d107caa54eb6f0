import DaemonDialogue.Time.Span

/-!
# Polling

A poll looks, and as long as there is nothing to see it sleeps and looks again until
the deadline is over. It always looks once, and once more after every sleep.
-/

namespace DaemonDialogue

/-- Where a poll runs: a clock in nanoseconds, a way to let time pass, and what others do between
two steps of the poll. -/
structure Surroundings (σ : Type) where
  now : σ → Nat
  sleep : Span → σ → σ
  pause : σ → σ := id

/-- Surroundings with something beside that they leave alone. -/
def Surroundings.beside {σ : Type} (β : Type) (world : Surroundings σ) : Surroundings (β × σ) where
  now p := world.now p.2
  sleep span p := (p.1, world.sleep span p.2)
  pause p := (p.1, world.pause p.2)

namespace Polling

/-- Looks up to `fuel` more times, until something is seen or the deadline is over. -/
def run {σ α : Type} (world : Surroundings σ) (look : σ → Option α × σ) (interval : Span)
    (deadline : Nat) : Nat → σ → Option α × σ
  | 0, s => (none, s)
  | fuel + 1, s =>
    match look s with
    | (some a, s) => (some a, s)
    | (none, s) =>
      let s := world.pause s
      if deadline ≤ world.now s then (none, s)
      else run world look interval deadline fuel (world.sleep interval s)

/-- How many looks fit into a time, one at its start included. -/
def looks (timeout interval : Span) : Nat :=
  (timeout.nanos + (interval.nanos - 1)) / max interval.nanos 1 + 1

/-- Looks until something is seen or `timeout` is over. -/
def poll {σ α : Type} (world : Surroundings σ) (look : σ → Option α × σ)
    (timeout interval : Span) (s : σ) : Option α × σ :=
  run world look interval (world.now s + timeout.nanos) (looks timeout interval) (world.pause s)

end Polling
end DaemonDialogue
