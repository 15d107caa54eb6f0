import DaemonDialogue.Pattern.Program
import DaemonDialogue.Pattern.Reader

/-!
# Searching with regular expressions

A search runs all threads of a program side by side over the bytes of a text, the
preferred ones first; of two threads in the same state only the first goes on. The match
found starts as early as possible and is the preferred one among those.
-/

namespace DaemonDialogue.Pattern

/-- A thread: its state and the place where its match began. -/
structure Thread where
  state : Nat
  start : Nat

/-- The characters around a place, if it lies between characters. -/
structure Around where
  before : Option Char := none
  after : Option Char := none

/-- The states on a stack with the targets of a fork in front. -/
def pushTargets (targets : Array Nat) (lastFirst : Bool) (stack : List Nat) : List Nat :=
  if lastFirst then targets.foldl (fun stack n => n :: stack) stack
  else targets.foldr (fun n stack => n :: stack) stack

/-- Follows the states on a stack until bytes are needed. `marks` holds for each state the
last place at which a thread came to it. -/
def follow (states : Array State) (around : Around) (place start : Nat) :
    Nat → List Nat → Array Nat → List Thread → Array Nat × List Thread
  | 0, _, marks, threads => (marks, threads)
  | _, [], marks, threads => (marks, threads)
  | fuel + 1, n :: stack, marks, threads =>
    if marks.getD n 0 == place + 1 then
      follow states around place start fuel stack marks threads
    else
      let marks := marks.setIfInBounds n (place + 1)
      match states.getD n .accept with
      | .pass next => follow states around place start fuel (next :: stack) marks threads
      | .fork targets lastFirst =>
        follow states around place start fuel (pushTargets targets lastFirst stack) marks threads
      | .assert a next =>
        if a.holds around.before around.after then
          follow states around place start fuel (next :: stack) marks threads
        else follow states around place start fuel stack marks threads
      | _ => follow states around place start fuel stack marks (⟨n, start⟩ :: threads)

def State.over? (s : State) (b : UInt8) : Option Nat :=
  match s with
  | .byte a => if a.low ≤ b && b ≤ a.high then some a.next else none
  | .bytes arrows => (arrows.find? fun a => a.low ≤ b && b ≤ a.high).map (·.next)
  | _ => none

/-- The states that threads come to over a byte (in reverse), up to the first thread that
accepts; and the match of that one. -/
def advance (states : Array State) (byte : Option UInt8) (place : Nat) :
    List Thread → List Thread → List Thread × Option (Nat × Nat)
  | [], moved => (moved, none)
  | t :: rest, moved =>
    match states.getD t.state .accept with
    | .accept => (moved, some (t.start, place))
    | s =>
      match byte.bind s.over? with
      | some next => advance states byte place rest (⟨next, t.start⟩ :: moved)
      | none => advance states byte place rest moved

/-- A search under way: the marks, the threads that moved last (in reverse), and the best match
so far. -/
structure Search where
  marks : Array Nat
  moved : List Thread := []
  found : Option (Nat × Nat) := none

/-- What happens at one place: threads arrive, one more starts between characters unless there
is a match, and each goes on over the next byte. -/
def Program.look (p : Program) (s : Search) (place : Nat) (around : Around) (mayStart : Bool)
    (byte : Option UInt8) : Search :=
  let (marks, threads) := s.moved.reverse.foldl (fun (marks, threads) t =>
    follow p.states around place t.start (p.room + 1) [t.state] marks threads) (s.marks, [])
  let (marks, threads) :=
    if mayStart && s.found.isNone then
      follow p.states around place place (p.room + 1) [p.start] marks threads
    else (marks, threads)
  let (moved, accepted) := advance p.states byte place threads.reverse []
  ⟨marks, moved, accepted.or s.found⟩

/-- Goes over the further bytes of a character. -/
def Program.lookInside (p : Program) (s : Search) (place : Nat) : List UInt8 → Search
  | [] => s
  | b :: rest => p.lookInside (p.look s place {} false (some b)) (place + 1) rest

/-- Runs threads over the rest of a text. -/
def Program.run (p : Program) (s : Search) (place : Nat) (before : Option Char) :
    List Char → Option (Nat × Nat)
  | [] => (p.look s place ⟨before, none⟩ true none).found
  | c :: rest =>
    let bytes := String.utf8EncodeChar c
    let s := p.look s place ⟨before, some c⟩ true bytes.head?
    let s := p.lookInside s (place + 1) (bytes.drop 1)
    if s.moved.isEmpty && s.found.isSome then s.found
    else p.run s (place + c.utf8Size) (some c) rest

end DaemonDialogue.Pattern

namespace DaemonDialogue

/-- A regular expression and the text it was read from. -/
structure Pattern where
  source : String
  program : Pattern.Program

namespace Pattern

def read? (source : String) : Option Pattern := do
  let e ← readExpr source
  some ⟨source, ← e.program?⟩

/-- The first match in a text: its range in bytes and its text. -/
def find? (p : Pattern) (text : String) : Option (Nat × Nat × String) :=
  let marks := Array.replicate p.program.states.size 0
  (p.program.run { marks } 0 none text.toList).map fun (start, stop) =>
    (start, stop, Utf8.decode (((Utf8.encode text).drop start).take (stop - start)))

end Pattern
end DaemonDialogue
