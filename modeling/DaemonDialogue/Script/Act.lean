import DaemonDialogue.Script.Machine

/-!
# Acts of processes

An act changes a process and the machine around it. It may have to wait for something to
happen; then nothing has changed yet.
-/

namespace DaemonDialogue.Script

/-- A process at work, and the machine around it. -/
structure Scene where
  machine : Machine
  self : Process

abbrev Act := StateT Scene Option

namespace Act

def block {α : Type} : Act α := failure

def self : Act Process := return (← get).self

def shell : Act Shell := return (← get).self.shell

def machine : Act Machine := return (← get).machine

def setMachine (m : Machine) : Act Unit := modify fun s => { s with machine := m }

def modifySelf (f : Process → Process) : Act Unit := modify fun s => { s with self := f s.self }

def modifyShell (f : Shell → Shell) : Act Unit := modifySelf fun p => p.mapShell f

def setStatus (status : Nat) : Act Unit := modifySelf fun p => p.withStatus status

def push (f : Frame) : Act Unit := modifySelf fun p => p.push f

def pushAll (fs : List Frame) : Act Unit := modifySelf fun p => p.pushAll fs

def setMode (mode : Mode) : Act Unit := modifySelf fun p => { p with mode }

def isSkipping : Act Bool := return (← self).mode != .running

/-- Makes what was changed so far known to the machine. -/
def commit : Act Unit := modify fun s => { s with machine := s.machine.put s.self }

/-- The process as the machine knows it. -/
def reload : Act Unit := modify fun s =>
  { s with self := (s.machine.process? s.self.pid).getD s.self }

/-- Ends the process, unless it has ended. -/
def die (status : ExitStatus) : Act Unit := do
  let s ← get
  if s.self.ended.isNone then
    setMachine (s.machine.endProcess s.self status)
    reload

/-- Sends a signal; false if there is no such process. -/
def signal (pid : Nat) (s : Signal) : Act Bool := do
  commit
  let (m, sent) := (← machine).signal pid s
  setMachine m
  reload
  return sent

/-- Writes bytes to a descriptor, or tells why that is refused. -/
def put (descriptor : Nat) (bs : List UInt8) : Act (Option String) := do
  if bs.isEmpty then return none
  let s ← get
  match s.machine.write s.self descriptor bs with
  | (m, .done) =>
    setMachine m
    return none
  | (_, .refused why) => return some why
  | (_, .broken) =>
    let _ ← signal s.self.pid .pipe
    return some SystemFault.brokenPipe.reason

/-- Writes text to a descriptor; false if that is refused. -/
def write (descriptor : Nat) (t : Text) : Act Bool :=
  return (← put descriptor (Text.toBytes t)).isNone

def report (t : Text) : Act Unit := do
  let _ ← write 2 t

def complain (t : Text) : Act Unit := do report ((← shell).complaint t)

/-- Gives up what is being done. -/
def raise (r : Raise) : Act Unit := setMode (.raising r)

/-- Complains and gives up what is being done. -/
def fault (t : Text) : Act Unit := do
  setStatus 2
  complain t
  raise .error

/-- How long it takes until a new process begins, in nanoseconds. -/
def forkTime : Nat := 300000

/-- Starts a child that does some work of its own; `change` is done to it first. Until it begins it
does on signals what its parent does. -/
def fork (work : List Frame) (change : Process → Process) (ignoring : List Nat := []) : Act Nat := do
  let s ← get
  let pid := s.machine.nextPid
  let child := { s.self.child pid (.detach ignoring :: work) with ready := s.machine.clock + forkTime }
  setMachine (s.machine.add (change child))
  return pid

/-- Enters processes as a job, and gives its number. -/
def addJob (pids : List Nat) : Act Nat := do
  let jobs := Job.add (pids.map fun pid => (pid, none)) (← shell).jobs
  modifyShell fun s => { s with jobs }
  return (jobs.head?.map (·.number)).getD 0

def forgetJob (number : Nat) : Act Unit :=
  modifyShell fun s => { s with jobs := s.jobs.filter fun j => j.number != number }

def job? (number : Nat) : Act (Option Job) :=
  return (← shell).jobs.find? fun j => j.number == number

def obituary : ExitStatus → Text
  | .signal s => if s == .interrupt || s == .pipe then [] else s.describe.toList ++ ['\n']
  | .code _ => []

/-- Learns of the children that have ended; of those in the job that is waited for it is said how,
if a signal ended them. -/
def collect (number : Option Nat) : Act Unit := do
  let s ← get
  let dead := s.machine.processes.filterMap fun p =>
    if p.parent == s.self.pid then p.ended.map fun e => (p.pid, e) else none
  dead.forM fun (pid, e) => do
    let sh ← shell
    let isMeant := number.any fun n => sh.jobs.any fun j => j.number == n && j.has pid
    modifyShell fun sh => { sh with jobs := sh.jobs.map fun j => j.learn pid e }
    modify fun s => { s with machine := s.machine.reap pid }
    if isMeant then report (obituary e)

end Act
end DaemonDialogue.Script
