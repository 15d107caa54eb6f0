import DaemonDialogue.Script.Program.Start
import DaemonDialogue.Script.Reading

/-!
# Steps of processes

A process takes the topmost frame of its work and does it. Where something is left, be it a
loop, a function or the whole script, frames are passed over, except that what was changed
for a while is changed back.
-/

namespace DaemonDialogue.Script

namespace Act

/-- Takes the place of a process, or complains that it cannot. -/
def execOn (words : List Text) (path : Text) : Act Unit := do
  let s ← get
  let name := words.headD []
  match Program.resolve (s.machine.filesOf s.self) (Program.pathsOf path name) words with
  | .ok (program, words) => Program.start program s.self.shell.bindings.environment words
  | .error f =>
    setStatus (Executable.failure f)
    complain (name ++ ": ".toList ++ Executable.reason f)
    raise .end_

/-- The status of a command that is turned around. -/
def negate : Act Unit := modifyShell fun sh => { sh with status := if sh.status = 0 then 1 else 0 }

/-- Ends a function: the arguments are again what they were. -/
def leaveFunction (arguments : List Text) (cursor : OptionCursor) (loops : Nat) : Act Unit :=
  modifyShell fun sh => { sh with arguments, cursor, loops, depth := sh.depth - 1 }

def restore (depth : Nat) (keeps : Bool) : Act Unit := do
  modifySelf (Process.restoreDescriptors depth keeps)
  tidy

def forget (depth : Nat) : Act Unit := modifySelf (Process.forgetLocals depth)

def leaveGuard (name : Option Text) : Act Unit := modifyShell fun sh => { sh with command := name }

def leaveTrap (status : Nat) (kept : Option Nat) (keepsStatus : Bool) : Act Unit := do
  if !keepsStatus then setStatus status
  modifySelf fun p => { p with kept }

/-- Ends what is done at the end of a shell, which is done once. -/
def endLastWords (keepsStatus : Bool) : Act Unit := do
  if keepsStatus then setStatus ((← self).kept.getD 0)
  modifyShell fun sh => sh.putTrap 0 none
  setMode .running

def perform (f : Frame) : Act Unit := do
  match f with
  | .detach ignoring => modifySelf (Process.detached ignoring)
  | .evaluate c f => evaluate c f
  | .after f checks =>
    if ← takeSignal (.after f checks) then return
    else settle f checks
  | .negate => negate
  | .next second f => push (.evaluate second f)
  | .both second f => if (← shell).status = 0 then push (.evaluate second f)
  | .either second f => if (← shell).status != 0 then push (.evaluate second f)
  | .choose yes no f =>
    if (← shell).status = 0 then push (.evaluate yes f)
    else
      match no with
      | some no => push (.evaluate no f)
      | none => setStatus 0
  | .tested l =>
    let holds : Bool := (← shell).status = 0
    if holds == l.untilTrue then leaveLoop l.status
    else pushAll [.evaluate l.body l.flags, .again l]
  | .again l =>
    let status := (← shell).status
    pushAll [.evaluate l.condition { tested := true }, .tested { l with status }]
  | .round r =>
    let status := (← shell).status
    nextRound (if r.begun then { r with status } else r)
  | .expand w answers k => expandOn w answers k
  | .collect opening job read => collectOn opening job read
  | .restore depth keeps => restore depth keeps
  | .forget depth => forget depth
  | .open_ left p => openOn left p
  | .function arguments cursor loops => leaveFunction arguments cursor loops
  | .guard name _ => leaveGuard name
  | .script s => scriptOn s
  | .trapped status kept => leaveTrap status kept false
  | .lastWords => endLastWords true
  | .await job => awaitOn job
  | .wait a => Builtin.waitOn a
  | .readLine raw names runs shielded => Builtin.readOn raw names { runs, shielded }
  | .exec words path => execOn words path
  | .begin_ program words =>
    Program.start program (← shell).bindings.exported words
  | .chore c => Program.workOn c

/-- How a loop goes on after its condition or its body left something: none if it ends. -/
def loopGoesOn : Act Bool := do
  match (← self).mode with
  | .breaking n =>
    setMode (if n ≤ 1 then .running else .breaking (n - 1))
    return false
  | .continuing n =>
    setMode (if n ≤ 1 then .running else .continuing (n - 1))
    return n ≤ 1
  | _ => return false

/-- Passes over a frame on the way to the end of a loop, a function or a script. -/
def passOver (explicit : Bool) (returning : Bool) (f : Frame) : Act Unit := do
  match f with
  | .after f checks => settle f checks
  | .tested l =>
    let now := (← shell).status
    let status := if returning && explicit then now else l.status
    if ← loopGoesOn then pushAll [.evaluate l.condition { tested := true }, .tested { l with status }]
    else leaveLoop status
  | .again l =>
    let status := (← shell).status
    if ← loopGoesOn then pushAll [.evaluate l.condition { tested := true }, .tested { l with status }]
    else leaveLoop status
  | .round r =>
    let status := (← shell).status
    if ← loopGoesOn then push (.round r) else leaveLoop status
  | .restore depth keeps => restore depth keeps
  | .forget depth => forget depth
  | .function arguments cursor loops =>
    leaveFunction arguments cursor loops
    if returning then setMode .running
  | .guard name _ => leaveGuard name
  | .script s => if s.isFile && returning then setMode .running
  | .trapped status kept => leaveTrap status kept (returning && explicit)
  | .lastWords => endLastWords true
  | _ => pure ()

/-- Goes on with a shell that asks for its lines, after something in one of them was given up. -/
def startOver (s : Source) : Act Unit := do
  setMode .running
  modifyShell fun sh => { sh with loops := 0, command := none }
  push (.script { s with strips := [⟨[], none, false⟩], echoed := 0, asked := none })

/-- Passes over a frame on the way to what catches what was raised. -/
def giveUp (r : Raise) (f : Frame) : Act Unit := do
  match f with
  | .function arguments cursor loops => leaveFunction arguments cursor loops
  | .guard name special =>
    leaveGuard name
    if r == .error && !special then setMode .running
  | .script s => if r == .error && s.prompts then startOver s
  | .lastWords => endLastWords (r == .exit)
  | _ => pure ()

/-- Ends a process whose work is done. A shell says its last words before. -/
def finish : Act Unit := do
  let p ← self
  if p.mode == .raising .exit then setStatus (p.kept.getD p.shell.status)
  modifySelf (Process.restoreDescriptors 0 false)
  tidy
  match p.shell.trap? 0 with
  | some action =>
    modifyShell fun sh => { sh.putTrap 0 none with loops := 0 }
    modifySelf fun p => { p with kept := some p.shell.status, mode := .running }
    pushAll [.script { strips := [⟨action, none, false⟩] }, .lastWords]
  | none => die (.code ((← shell).status % 256))

def step : Act Unit := do
  let p ← self
  match p.work with
  | [] => finish
  | f :: rest =>
    modifySelf fun p => { p with work := rest }
    match p.mode with
    | .running => perform f
    | .raising r => giveUp r f
    | .returning explicit => passOver explicit true f
    | _ => passOver false false f

end Act

namespace Machine

def isReady (m : Machine) (p : Process) : Bool :=
  p.ended.isNone && !p.paused && p.ready ≤ m.clock

/-- One step of a process; none if it waits for something. -/
def step (m : Machine) (p : Process) : Option Machine :=
  if m.isReady p then (Act.step.run ⟨m, p⟩).map fun (_, s) => s.machine.put s.self
  else none

end Machine
end DaemonDialogue.Script
