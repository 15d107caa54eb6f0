import DaemonDialogue.Daemon.World
import DaemonDialogue.Expectation.Wait
import DaemonDialogue.Template.Reader
import DaemonDialogue.Template.Render

/-!
# Handles

A handle is a started daemon as a test sees it: its input, the place up to which its
output is consumed, and its end once that is known. A known end never changes.
-/

namespace DaemonDialogue

/-- A started daemon; its template functions are called in the state of everything. -/
structure Handle (σ : Type) where
  name : String
  program : String
  arguments : List String
  workingDir : String
  pid : Nat
  datadir : Option String := none
  etherbase : Option String := none
  config : Config := {}
  scratch : Option String := none
  inputOpen : Bool := true
  cursor : Cursor := {}
  status : Option ExitStatus := none
  unmatched : Option String := none
  capturing : Bool := true
  functions : Template.Registry σ := {}

namespace Handle

open Daemon (World)

variable {σ : Type} (w : World σ)

def label (h : Handle σ) : String := s!"{h.name} (pid={h.pid})"

/-! ## Input -/

def writeInput (h : Handle σ) (line : String) (s : σ) : Except SystemFault Unit × σ :=
  if h.inputOpen then
    w.write h.pid (Utf8.encode line ++ [Newline.lineFeed]) (w.debug ("stdin <- " ++ line) s)
  else (.error .inputClosed, s)

def writeLine (h : Handle σ) (line : String) (s : σ) : Except Failure Unit × σ :=
  match h.writeInput w line s with
  | (.ok (), s) => (.ok (), s)
  | (.error fault, s) => (.error (.system fault), s)

def closeInput (h : Handle σ) (s : σ) : Handle σ × σ :=
  if h.inputOpen then
    ({ h with inputOpen := false }, w.debug s!"Closed stdin of {h.label}" (w.closeInput h.pid s))
  else (h, s)

/-! ## Templates -/

def field? (h : Handle σ) (name : String) : Option String :=
  match name with
  | "Name" => some h.name
  | "Pid" => some (toString h.pid)
  | "Datadir" => h.datadir
  | "Etherbase" => h.etherbase
  | _ => none

/-- Runs the action that writes a line; a daemon that no longer reads just misses it. -/
def inputLine (h : Handle σ) (line : String) (s : σ) : σ × Except Template.Error String :=
  match h.writeInput w line s with
  | (.ok (), s) => (s, .ok "")
  | (.error fault, s) =>
    if fault.isBrokenPipe then
      (w.debug s!"Dropped input {quoted line} for {h.name}: {fault.message}" s, .ok "")
    else (s, .error (.failedAction "InputLine" fault.message))

def scope (h : Handle σ) : Template.Scope σ where
  hasField _ name := (h.field? name).isSome
  field? _ name := h.field? name
  hasAction _ name := name == "InputLine"
  act s name argument :=
    if name == "InputLine" then h.inputLine w argument s else (s, .error (.unknownAction name))

/-- Expands a template; its actions write to the input as they are reached. -/
def render (h : Handle σ) (source : String) (s : σ) : Except Failure String × σ :=
  match Template.read source with
  | .error e => (.error (.template e), s)
  | .ok t =>
    let outcome := t.render h.functions (h.scope w) s
    match outcome.result with
    | .ok text => (.ok text, outcome.state)
    | .error e => (.error (.template e), outcome.state)

/-! ## Expectations -/

def logOutcome (h : Handle σ) (result : Except Failure Match) (s : σ) : σ :=
  match result with
  | .ok m => w.debug s!"Matched on {m.channel.name} at {m.start}..{m.stop}: {quoted m.text}" s
  | .error e => w.warn s!"Expectation failed for {h.name}: {e.message}" s

/-- Waits for a text on standard output behind what is consumed. -/
def expectLiteral (h : Handle σ) (text : String) (timeout : Span) (s : σ) :
    Except Failure Match × Handle σ × σ :=
  let s := w.trace s!"Expecting on stdout: {quoted text}" s
  let (result, cursor, s) := Match.awaitLiteral w.toSurroundings (w.stream h.pid .stdout) .stdout
    text timeout h.config.pollInterval h.cursor s
  (result, { h with cursor }, h.logOutcome w result s)

def expect (h : Handle σ) (source : String) (s : σ) : Except Failure Match × Handle σ × σ :=
  match h.render w source s with
  | (.error e, s) => (.error e, h, s)
  | (.ok text, s) => h.expectLiteral w text h.config.expectTimeout s

def expectPattern (h : Handle σ) (channel : Channel) (source : String) (timeout : Span) (s : σ) :
    Except Failure Match × σ :=
  match Pattern.read? source with
  | none => (.error .invalidPattern, s)
  | some p =>
    let s := w.trace s!"Expecting on {channel.name}: /{source}/" s
    let (result, s) := Match.awaitPattern w.toSurroundings (w.stream h.pid channel) channel p
      timeout h.config.pollInterval s
    (result, h.logOutcome w result s)

/-- Does a pattern match what a stream has written so far? -/
def shows (h : Handle σ) (channel : Channel) (source : String) (s : σ) : Except Failure Bool :=
  match Pattern.read? source with
  | none => .error .invalidPattern
  | some p => .ok (Match.occurs p (w.stream h.pid channel s))

/-! ## Ends -/

/-- Looks whether the process has ended. -/
def tryStatus (h : Handle σ) (s : σ) : Except Failure (Option ExitStatus) × Handle σ × σ :=
  match h.status with
  | some status => (.ok (some status), h, s)
  | none =>
    match w.poll h.pid s with
    | (.ok status, s) => (.ok status, { h with status }, s)
    | (.error fault, s) => (.error (.system fault), h, s)

def isRunning (h : Handle σ) (s : σ) : Bool × Handle σ × σ :=
  let (result, h, s) := h.tryStatus w s
  (result matches .ok none, h, s)

def terminate (h : Handle σ) (s : σ) : Except Failure Unit × Handle σ × σ :=
  match h.tryStatus w s with
  | (.error e, h, s) => (.error e, h, s)
  | (.ok (some _), h, s) => (.error (.processExited h.name h.pid), h, s)
  | (.ok none, h, s) =>
    match w.signal h.pid .terminate (w.info s!"Terminating {h.label}" s) with
    | (true, s) => (.ok (), h, s)
    | (false, s) =>
      match w.kill h.pid (w.warn "kill -TERM failed, falling back to SIGKILL" s) with
      | (.ok (), s) => (.ok (), h, s)
      | (.error fault, s) => (.error (.system fault), h, s)

/-- Ends the process; one that has already ended is left as it is. -/
def kill (h : Handle σ) (s : σ) : Except Failure Unit × Handle σ × σ :=
  match h.tryStatus w s with
  | (.error e, h, s) => (.error e, h, s)
  | (.ok (some _), h, s) => (.ok (), h, s)
  | (.ok none, h, s) =>
    match w.kill h.pid (w.info s!"Killing {h.label}" s) with
    | (.ok (), s) => (.ok (), h, s)
    | (.error fault, s) => (.error (.system fault), h, s)

def outputEnded (h : Handle σ) (s : σ) : Bool :=
  (w.stream h.pid .stdout s).closed && (w.stream h.pid .stderr s).closed

/-- Gives the capture of output some time to come to its end. -/
def finishCapture (h : Handle σ) (s : σ) : Handle σ × σ :=
  if h.capturing then
    let grace := h.config.drainGrace
    let look (s : σ) : Option Unit × σ := (if h.outputEnded w s then some () else none, s)
    let h' := { h with capturing := false }
    match Polling.poll w.toSurroundings look grace h.config.pollInterval s with
    | (some (), s) => (h', s)
    | (none, s) =>
      (h', w.warn s!"Output of {h.label} still open {grace.render} after exit, detaching capture" s)
  else (h, s)

def recordUnmatched (h : Handle σ) (status : ExitStatus) (s : σ) : Handle σ × σ :=
  match h.unmatched with
  | some _ => (h, s)
  | none =>
    let (rest, cursor) := h.cursor.drain (w.stream h.pid .stdout s)
    let s := if rest.isEmpty then s else w.warn s!"Unmatched stdout of {h.name}:\n{rest}" s
    ({ h with unmatched := some rest, cursor },
      w.info s!"Process {h.label} exited with code {status.number}" s)

/-- Waits until the process has ended. -/
def awaitEnd (h : Handle σ) (s : σ) : Except Failure ExitStatus × Handle σ × σ :=
  match h.status with
  | some status => (.ok status, h, s)
  | none =>
    match w.await h.pid s with
    | (.ok status, s) => (.ok status, { h with status := some status }, s)
    | (.error fault, s) => (.error (.system fault), h, s)

/-- Waits until the process has ended and its output is captured. -/
def expectExit (h : Handle σ) (s : σ) : Except Failure ExitStatus × Handle σ × σ :=
  match h.awaitEnd w s with
  | (.error e, h, s) => (.error e, h, s)
  | (.ok status, h, s) =>
    let (h, s) := h.finishCapture w s
    let (h, s) := h.recordUnmatched w status s
    (.ok status, h, s)

/-- The number of the end, once there is one. -/
def exitCode (h : Handle σ) (s : σ) : Except Failure Nat × Handle σ × σ :=
  match h.expectExit w s with
  | (.ok status, h, s) => (.ok status.number, h, s)
  | (.error e, h, s) => (.error e, h, s)

def expectExitCode (h : Handle σ) (code : Int) (s : σ) : Except Failure Unit × Handle σ × σ :=
  match h.exitCode w s with
  | (.error e, h, s) => (.error e, h, s)
  | (.ok actual, h, s) =>
    if (actual : Int) = code then (.ok (), h, s)
    else (.error (.unexpectedExit (toString code) actual), h, s)

def expectFailureExit (h : Handle σ) (s : σ) : Except Failure Nat × Handle σ × σ :=
  match h.exitCode w s with
  | (.error e, h, s) => (.error e, h, s)
  | (.ok 0, h, s) => (.error (.unexpectedExit "non-zero" 0), h, s)
  | (.ok actual, h, s) => (.ok actual, h, s)

/-- Gives the handle up: a process that still runs is ended first, its directory goes last. -/
def drop (h : Handle σ) (s : σ) : σ :=
  let s := if h.inputOpen then w.closeInput h.pid s else s
  let (h, s) := match h.tryStatus w s with
    | (.ok (some _), h, s) => (h, s)
    | (_, h, s) =>
      let s := w.warn s!"Killing {h.label} still running at drop" s
      let (_, s) := w.kill h.pid s
      let (_, h, s) := h.awaitEnd w s
      (h, s)
  let (h, s) := h.finishCapture w s
  match h.scratch with
  | none => s
  | some path => w.removeDirectory path (w.debug s!"Removing scratch dir {path}" s)

end Handle
end DaemonDialogue
