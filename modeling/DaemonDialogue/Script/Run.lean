import DaemonDialogue.Script.Step

/-!
# Running scripts

The processes of a machine take turns. A turn takes a little time; when all of them
are blocked the clock goes to the next time that one of them waits for.
-/

namespace DaemonDialogue.Script.Machine

/-- How long a turn takes, in nanoseconds. -/
def turnTime : Nat := 500

/-- One step of every process that is not blocked, and whether there was one. -/
def turn (m : Machine) : Machine × Bool :=
  m.processes.foldl (fun (m, moved) p =>
    match (m.process? p.pid).bind (step m) with
    | some m => (m, true)
    | none => (m, moved)) (m, false)

def wake? (m : Machine) (p : Process) : Option Nat :=
  if p.ended.isSome || p.paused then none
  else if m.clock < p.ready then some p.ready
  else
    match p.work with
    | .chore (.sleep wakes) :: _ => wakes
    | .chore (.limit l) :: _ => l.ends
    | _ => none

def nextWake? (m : Machine) : Option Nat := (m.processes.filterMap m.wake?).min?

/-- Lets processes run up to a time, or for a number of turns. -/
def runUntil (time : Nat) : Nat → Machine → Machine
  | 0, m => m
  | fuel + 1, m =>
    if time ≤ m.clock then m
    else
      match m.turn with
      | (m, true) => runUntil time fuel { m with clock := m.clock + turnTime }
      | (m, false) =>
        match m.nextWake? with
        | some wakes => runUntil time fuel { m with clock := min time (max wakes (m.clock + turnTime)) }
        | none => { m with clock := time }

/-- Lets processes run for some time. -/
def runFor (m : Machine) (nanos : Nat) : Machine :=
  runUntil (m.clock + nanos) (nanos / turnTime + 2) m

def hasEnded (m : Machine) (pid : Nat) : Bool :=
  ((m.process? pid).bind (·.ended)).isSome

/-- Lets processes run until one of them has ended, as long as something can happen. -/
def runToEnd (pid : Nat) : Nat → Machine → Machine
  | 0, m => m
  | fuel + 1, m =>
    if m.hasEnded pid then m
    else
      match m.turn with
      | (m, true) => runToEnd pid fuel { m with clock := m.clock + turnTime }
      | (m, false) =>
        match m.nextWake? with
        | some wakes => runToEnd pid fuel { m with clock := max wakes (m.clock + turnTime) }
        | none => m

/-- The pipes of a process that was started from outside. -/
structure Ends where
  pid : Nat
  input : Nat
  output : Nat
  complaints : Nat
  deriving DecidableEq, Repr, Inhabited

/-- What a new process finds in its environment: the last value given to each name, in the order
of the names. A name that holds a sign of assignment ends there. -/
def environmentOf (given : List (String × String)) : List (Text × Text) :=
  let distinct := given.foldl (fun (kept : List (String × String)) v =>
    kept.filter (fun k => k.1 != v.1) ++ [v]) []
  let sorted := distinct.mergeSort fun a b =>
    Text.precedes (Text.ofString a.1) (Text.ofString b.1)
  sorted.map fun (name, value) =>
    let written := Text.ofString name ++ '=' :: Text.ofString value
    (Cut.atFirst? '=' written).getD (written, [])

/-- Starts a program from outside the machine. -/
def launch (m : Machine) (directory : String) (environment : List (String × String))
    (words : List String) : Except SystemFault (Machine × Ends) := do
  let place ←
    match ← m.files.resolve directory with
    | (place, .directory _) => pure place
    | _ => .error .notADirectory
  let environment := environmentOf environment
  let arguments := words.map Text.ofString
  let path := (environment.lookup "PATH".toList).getD Act.usualPath
  let files := { m.files with workingDir := place }
  let (program, arguments) ←
    Program.resolve files (Program.pathsOf path (arguments.headD [])) arguments
  let (m, input) := m.addPipe { writtenOutside := true }
  let (m, output) := m.addPipe { readOutside := true }
  let (m, complaints) := m.addPipe { readOutside := true }
  let (m, given) := m.open_ { target := .readEnd input, reads := true }
  let (m, written) := m.open_ { target := .writeEnd output, writes := true }
  let (m, complained) := m.open_ { target := .writeEnd complaints, writes := true }
  let bindings := environment.map fun (name, value) => (name, { value := some value, exported := true })
  let p : Process :=
    { pid := m.nextPid, directory := place, shell := { bindings := ⟨bindings⟩ }
      work := [.begin_ program arguments], descriptors := [(0, given), (1, written), (2, complained)]
      ready := m.clock + Act.forkTime }
  return (m.add p, ⟨p.pid, input, output, complaints⟩)

/-- What was written to a pipe that is read from outside, and whether it has ended. -/
def drain (m : Machine) (id : Nat) : List UInt8 × Bool × Machine :=
  let (bs, pipe) := (m.pipe id).takeAll
  (bs, !m.hasWriter id, m.putPipe id pipe)

/-- Writes to a pipe from outside; false if nobody can read it. -/
def feed (m : Machine) (id : Nat) (bs : List UInt8) : Machine × Bool :=
  if m.hasReader id then (m.putPipe id ((m.pipe id).add bs), true) else (m, false)

/-- Lets go of the end of a pipe that is written from outside. -/
def release (m : Machine) (id : Nat) : Machine :=
  m.putPipe id { m.pipe id with writtenOutside := false }

end DaemonDialogue.Script.Machine
