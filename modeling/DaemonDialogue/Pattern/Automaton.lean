import DaemonDialogue.Pattern.Assertion
import DaemonDialogue.Pattern.ByteRun

/-!
# Automata over bytes

An automaton is made state by state: a state is added when those behind it may not be
known yet, and is linked to them later. Every state and every link out of it takes room,
and an automaton that takes too much is given up at once.
-/

namespace DaemonDialogue.Pattern

/-- A way on for bytes of a range. -/
structure Arrow where
  low : UInt8
  high : UInt8
  next : Nat
  deriving DecidableEq, Repr, Inhabited

/-- A state; numbers are other states. A fork tries its targets in order, or the last first. -/
inductive State
  | pass (next : Nat)
  | byte (arrow : Arrow)
  | bytes (arrows : List Arrow)
  | assert (assertion : Assertion) (next : Nat)
  | fork (targets : Array Nat) (lastFirst : Bool)
  | accept
  deriving Repr, Inhabited

/-- The room that a state takes with the links it is made with. -/
def State.room : State → Nat
  | .bytes arrows => 32 + 8 * arrows.length
  | .fork targets _ => 32 + 4 * targets.size
  | _ => 32

def State.link (next : Nat) : State → State
  | .pass _ => .pass next
  | .byte arrow => .byte { arrow with next := next }
  | .assert a _ => .assert a next
  | .fork targets lastFirst => .fork (targets.push next) lastFirst
  | s => s

/-- Some states, and the room they take. -/
structure Automaton where
  states : Array State := #[]
  room : Nat := 0
  deriving Repr, Inhabited

def maxRoom : Nat := 10 * 0x100000

/-- Something made in an automaton, unless there is no room for it. -/
abbrev Build := StateT Automaton Option

/-- A part of an automaton, from its first to its last state. -/
structure Piece where
  start : Nat
  finish : Nat
  deriving Repr, Inhabited

namespace Automaton

/-- The automaton, if it does not take too much room. -/
def checked? (a : Automaton) : Option Automaton :=
  if a.room ≤ maxRoom then some a else none

def add (s : State) : Build Nat := fun a =>
  let n := a.states.size
  (checked? ⟨a.states.push s, a.room + s.room⟩).map fun a => (n, a)

def link (origin next : Nat) : Build Unit := fun a =>
  let extra :=
    match a.states[origin]? with
    | some (.fork _ _) => 4
    | _ => 0
  (checked? ⟨a.states.modify origin (State.link next), a.room + extra⟩).map fun a => ((), a)

/-- Adds a fork that prefers what is linked to it first, or the other way around. -/
def addFork (greedy : Bool) : Build Nat := add (.fork #[] (!greedy))

/-- Adds a state that does nothing. -/
def addPass : Build Nat := add (.pass 0)

def join (a b : Piece) : Build Piece := do
  link a.finish b.start
  return ⟨a.start, b.finish⟩

def single (s : State) : Build Piece := do
  let n ← add s
  return ⟨n, n⟩

def anyOf (ranges : List ByteRange) : Build Piece := do
  let finish ← addPass
  let start ← add (.bytes (ranges.map fun (low, high) => ⟨low, high, finish⟩))
  return ⟨start, finish⟩

/-! ## Repetitions -/

def copiesBehind (one : Build Piece) : Nat → Piece → Build Piece
  | 0, piece => pure piece
  | n + 1, piece => do
    let piece ← join piece (← one)
    copiesBehind one n piece

def copies (one : Build Piece) : Nat → Build Piece
  | 0 => single (.pass 0)
  | n + 1 => do
    let first ← one
    copiesBehind one n first

/-- A number of optional copies behind a state, each only behind the one before, up to `finish`. -/
def optionalBehind (one : Build Piece) (greedy : Bool) (finish : Nat) : Nat → Nat → Build Unit
  | 0, last => link last finish
  | n + 1, last => do
    let fork ← addFork greedy
    let piece ← one
    link last fork
    link fork piece.start
    link fork finish
    optionalBehind one greedy finish n piece.finish

def optional (one : Build Piece) (greedy : Bool) : Build Piece := do
  let fork ← addFork greedy
  let piece ← one
  let finish ← addPass
  link fork piece.start
  link fork finish
  link piece.finish finish
  return ⟨fork, finish⟩

def bounded (one : Build Piece) (greedy : Bool) (least greatest : Nat) : Build Piece := do
  let piece ← copies one least
  let finish ← addPass
  optionalBehind one greedy finish (greatest - least) piece.finish
  return ⟨piece.start, finish⟩

/-- Any number of copies. If a copy may be empty, none of them at all is a choice of its own. -/
def star (one : Build Piece) (mayBeEmpty greedy : Bool) : Build Piece := do
  if mayBeEmpty then
    let piece ← one
    let again ← addFork greedy
    link piece.finish again
    link again piece.start
    let fork ← addFork greedy
    let finish ← addPass
    link fork piece.start
    link fork finish
    link again finish
    return ⟨fork, finish⟩
  else
    let fork ← addFork greedy
    let piece ← one
    link fork piece.start
    link piece.finish fork
    return ⟨fork, fork⟩

def plus (one : Build Piece) (greedy : Bool) (least : Nat) : Build Piece := do
  match least with
  | 0 =>
    let piece ← one
    let again ← addFork greedy
    link piece.finish again
    link again piece.start
    return ⟨piece.start, again⟩
  | least =>
    let piece ← copies one least
    let last ← one
    let again ← addFork greedy
    link piece.finish last.start
    link last.finish again
    link again last.start
    return ⟨piece.start, again⟩

def repeated (one : Build Piece) (mayBeEmpty greedy : Bool) (least : Nat) :
    Option Nat → Build Piece
  | none =>
    match least with
    | 0 => star one mayBeEmpty greedy
    | least + 1 => plus one greedy least
  | some greatest =>
    if least == 0 && greatest == 1 then optional one greedy
    else if least == greatest then copies one least
    else bounded one greedy least greatest

end Automaton
end DaemonDialogue.Pattern
