import DaemonDialogue.Pattern.Automaton
import Std.Data.HashMap

/-!
# Pieces of automata for sets of characters

Forwards, characters that end alike share the states for their last bytes; backwards,
those that begin alike share the states for their first bytes. What is shared is looked up
in a table of few places, in which a later entry takes the place of an earlier one.
-/

namespace DaemonDialogue.Pattern

/-- Mixes a number into the place of a table entry. -/
def mix (place : UInt64) (n : UInt64) : UInt64 :=
  (place ^^^ n) * 1099511628211

/-- The place that nothing was mixed into. -/
def mixStart : UInt64 := 14695981039346656037

/-! ## Forwards -/

abbrev Made := Std.HashMap UInt64 (List Arrow × Nat)

def placeOf (arrows : List Arrow) : UInt64 :=
  arrows.foldl (fun place a =>
    mix (mix (mix place a.low.toUInt64) a.high.toUInt64) a.next.toUInt64) mixStart % 10000

def makeState (made : Made) (arrows : List Arrow) : Build (Nat × Made) := do
  let place := placeOf arrows
  match made[place]? with
  | some (known, n) =>
    if known == arrows then return (n, made)
    else
      let n ← Automaton.add (.bytes arrows)
      return (n, made.insert place (arrows, n))
  | none =>
    let n ← Automaton.add (.bytes arrows)
    return (n, made.insert place (arrows, n))

/-- A state in the making: its arrows (in reverse), and a last one without a target yet. -/
structure OpenState where
  arrows : List Arrow := []
  last : Option ByteRange := none

/-- The last arrow gets its target. -/
def OpenState.close (s : OpenState) (next : Nat) : OpenState :=
  match s.last with
  | some (low, high) => ⟨⟨low, high, next⟩ :: s.arrows, none⟩
  | none => s

/-- Makes open states, the last byte's first, and says which one is the first byte's. -/
def closeStates (made : Made) (next : Nat) : List OpenState → Build (Nat × Made)
  | [] => pure (next, made)
  | s :: rest => do
    let (n, made) ← makeState made (s.close next).arrows.reverse
    closeStates made n rest

/-- How many of the first bytes of a run the open states go along with. -/
def sharedLength : ByteRun → List OpenState → Nat
  | r :: run, s :: open_ => if s.last == some r then sharedLength run open_ + 1 else 0
  | _, _ => 0

/-- Makes all open states but the first `n + 1`. -/
def closeBehind (made : Made) (target n : Nat) (open_ : List OpenState) :
    Build (List OpenState × Made) := do
  let (next, made) ← closeStates made target (open_.drop (n + 1)).reverse
  let kept := (open_.take n) ++ ((open_.drop n).take 1).map (·.close next)
  return (kept, made)

def addRuns (target : Nat) : List ByteRun → List OpenState → Made →
    Build (List OpenState × Made)
  | [], open_, made => pure (open_, made)
  | run :: rest, open_, made => do
    let n := sharedLength run open_
    let (kept, made) ← closeBehind made target n open_
    let behind := run.drop n
    let kept := kept.dropLast ++
      (kept.getLast?.map fun s => { s with last := behind.head? }).toList ++
      (behind.drop 1).map fun r => { last := some r }
    addRuns target rest kept made

def forwardPiece (runs : List ByteRun) : Build Piece := do
  let target ← Automaton.addPass
  let (open_, made) ← addRuns target runs [{}] {}
  let (open_, made) ← closeBehind made target 0 open_
  let (start, _) ← makeState made ((open_.head?.map (·.arrows.reverse)).getD [])
  return ⟨start, target⟩

/-! ## Backwards -/

/-- A state for one byte: what it goes on to, and the range of the byte. -/
abbrev ByteKey := Nat × ByteRange

abbrev MadeBytes := Std.HashMap UInt64 (ByteKey × Nat)

def placeOfByte (key : ByteKey) : UInt64 :=
  mix (mix (mix mixStart key.1.toUInt64) key.2.1.toUInt64) key.2.2.toUInt64 % 1000

/-- Makes the states of a run that goes on to `next`, or finds them. -/
def addRunBack (made : MadeBytes) (next : Nat) : ByteRun → Build (Nat × MadeBytes)
  | [] => pure (next, made)
  | (low, high) :: rest => do
    let key : ByteKey := (next, low, high)
    let place := placeOfByte key
    let make : Build (Nat × MadeBytes) := do
      let n ← Automaton.add (.byte ⟨low, high, next⟩)
      return (n, made.insert place (key, n))
    let (n, made) ←
      match made[place]? with
      | some (known, n) => if known == key then pure (n, made) else make
      | none => make
    addRunBack made n rest

def addRunsBack (fork finish : Nat) : List ByteRun → MadeBytes → Build Unit
  | [], _ => pure ()
  | run :: rest, made => do
    let (n, made) ← addRunBack made finish run
    Automaton.link fork n
    addRunsBack fork finish rest made

def backwardPiece (runs : List ByteRun) : Build Piece := do
  let fork ← Automaton.addFork true
  let finish ← Automaton.addPass
  addRunsBack fork finish runs {}
  return ⟨fork, finish⟩

def charPiece (back : Bool) (s : CharSet) : Build Piece :=
  if s.isAscii then
    Automaton.anyOf (s.ranges.map fun (a, b) => (a.toUInt8, b.toUInt8))
  else if back then backwardPiece (ByteRun.ofSet s)
  else forwardPiece (ByteRun.ofSet s)

end DaemonDialogue.Pattern
