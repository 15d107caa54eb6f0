import DaemonDialogue.Daemon.Launch
import DaemonDialogue.File.Component

/-!
# Trials

A trial is one test with the daemons it launched. It owns a directory for everything
it puts down, which goes when the trial is over and the last of its handles is gone.
-/

namespace DaemonDialogue

open Daemon (World)

/-- One test: its directory, whether it still goes on, and its handles by name. -/
structure Trial (σ : Type) where
  name : String
  config : Config
  root : String
  running : Bool := true
  handles : List (String × Handle σ) := []

namespace Trial

variable {σ : Type} (w : World σ)

def rootStem (name : String) : String :=
  Component.ofName (Cut.replace "::" "_" name) ++ "_"

def createRoot (name : String) (config : Config) (s : σ) : Except Failure String × σ :=
  match w.createDirectories config.tempDir s with
  | (.error fault, s) => (.error (.system fault), s)
  | (.ok (), s) =>
    match w.createFresh config.tempDir (rootStem name ++ w.stamp s ++ "_") s with
    | (.error fault, s) => (.error (.system fault), s)
    | (.ok root, s) => (.ok root, s)

def summary (config : Config) (root : String) : List (String × String) :=
  [("test_dir", root), ("expect_timeout", config.expectTimeout.render),
    ("poll_interval", config.pollInterval.render),
    ("cleanup_scratch", toString config.cleanupScratch)]

def begin_ (name : String) (config : Config) (s : σ) : Except Failure (Trial σ) × σ :=
  match createRoot w name config s with
  | (.error e, s) => (.error e, s)
  | (.ok root, s) =>
    let s := w.info s!"Test harness initialized: {name}" s
    (.ok { name, config, root },
      w.log .debug "Harness configuration" (summary config root) s)

def scratchDir (t : Trial σ) (name : String) (s : σ) : Except Failure String × σ :=
  let path := Path.join t.root (Component.ofName name)
  match w.createDirectories path s with
  | (.ok (), s) => (.ok path, s)
  | (.error fault, s) => (.error (.system fault), s)

def handle? (t : Trial σ) (id : String) : Option (Handle σ) := t.handles.lookup id

def put (t : Trial σ) (id : String) (h : Handle σ) : Trial σ :=
  { t with handles := t.handles.map fun e => if e.1 == id then (id, h) else e }

/-- Removes the directory of a test that is over and has no handles. -/
def sweep (t : Trial σ) (s : σ) : σ :=
  if t.config.cleanupScratch && !t.running && t.handles.isEmpty then w.removeDirectory t.root s
  else s

/-- Gives a handle up, if there is one. -/
def drop (t : Trial σ) (id : String) (s : σ) : Trial σ × σ :=
  match t.handle? id with
  | none => (t, s)
  | some h =>
    let t := { t with handles := t.handles.filter fun e => e.1 != id }
    (t, t.sweep w (h.drop w s))

/-- Launches a command; the handle takes the place of another of the same name. -/
def launch (t : Trial σ) (id : String) (c : Command) (s : σ) : Except Failure (Handle σ) × Trial σ × σ :=
  match Launch.run w t.config t.root c s with
  | (.error e, s) => (.error e, t, s)
  | (.ok h, s) =>
    let (t, s) := t.drop w id s
    (.ok h, { t with handles := t.handles ++ [(id, h)] }, s)

/-- Waits until something accepts connections at an endpoint, and says how long that took. -/
def awaitEndpoint (t : Trial σ) (e : Endpoint) (timeout : Span) (s : σ) : Except Failure Span × σ :=
  let s := w.debug s!"Waiting for endpoint: {e.render} (timeout: {timeout.render})" s
  let start := w.now s
  let look (s : σ) : Option Unit × σ := (if w.connects e s then some () else none, s)
  match Polling.poll w.toSurroundings look timeout t.config.endpointPollInterval s with
  | (some (), s) =>
    let elapsed : Span := ⟨w.now s - start⟩
    (.ok elapsed, w.info s!"Endpoint ready after {elapsed.render}: {e.render}" s)
  | (none, s) =>
    let failure := Failure.endpointUnreachable e.render timeout
    (.error failure, w.error failure.message s)

/-- Ends a trial; its handles may outlive it. -/
def finish (t : Trial σ) (s : σ) : Trial σ × σ :=
  let warnings := w.count .warn s
  let errors := w.count .error s
  let s := w.debug s!"Test harness finished: {warnings} warnings, {errors} errors" s
  let s := if t.config.printOutput then w.summarize s else s
  let t := { t with running := false }
  (t, t.sweep w s)

def dropAll (t : Trial σ) (s : σ) : Trial σ × σ :=
  (t.handles.map (·.1)).foldl (fun (t, s) id => t.drop w id s) (t, s)

/-- Gives all handles up and ends a trial. -/
def close (t : Trial σ) (s : σ) : Trial σ × σ :=
  let (t, s) := t.dropAll w s
  t.finish w s

end Trial
end DaemonDialogue
