import DaemonDialogue.Daemon.Command
import DaemonDialogue.Daemon.Handle

/-!
# Launching daemons

A launch makes the directories that a daemon needs, starts it and hands over its
handle. A data directory is put in front of the arguments if they name none; it goes
with its handle, or at once if the launch fails.
-/

namespace DaemonDialogue

open Daemon (World)

namespace Command

/-- Does a launch have to make a data directory? -/
def needsScratch (c : Command) : Bool :=
  c.scratchDatadir && (flagValue? "--datadir" c.arguments).isNone

def launchArguments (c : Command) (made : Option String) : List String :=
  match made with
  | some path => "--datadir" :: path :: c.arguments
  | none => c.arguments

end Command

namespace Launch

variable {σ : Type} (w : World σ)

/-- Makes the data directory of a command, if it needs one. -/
def makeScratch (base : String) (c : Command) (s : σ) : Except Failure (Option String) × σ :=
  if c.needsScratch then
    match w.createDirectories base s with
    | (.error fault, s) => (.error (.system fault), s)
    | (.ok (), s) =>
      match w.createFresh base (c.name ++ "-datadir-") s with
      | (.error fault, s) => (.error (.system fault), s)
      | (.ok path, s) => (.ok (some path), s)
  else (.ok none, s)

def capture (pid : Nat) (s : σ) : Except SystemFault Unit × σ :=
  match w.capture pid .stdout s with
  | (.error fault, s) => (.error fault, s)
  | (.ok (), s) => w.capture pid .stderr s

/-- Starts the process of a command in its working directory; it is ended again if its output
cannot be captured. -/
def start (config : Config) (c : Command) (arguments : List String) (workingDir : String) (s : σ) :
    Except Failure Nat × σ :=
  match w.createDirectories workingDir s with
  | (.error fault, s) => (.error (.system fault), s)
  | (.ok (), s) =>
    let line := " ".intercalate arguments
    let s := w.info s!"Spawning process: {c.name} {c.program} {line}" s
    let environment := config.environment ++ c.environment
    match w.launch ⟨c.name, c.program, arguments, environment, workingDir⟩ s with
    | (.error fault, s) =>
      (.error (.launchFailed c.program fault),
        w.error s!"Failed to start {c.program}: {fault.message}" s)
    | (.ok pid, s) =>
      match capture w pid s with
      | (.error fault, s) => (.error (.system fault), (w.await pid (w.kill pid s).2).2)
      | (.ok (), s) =>
        (.ok pid, w.log .info s!"Process spawned: {c.name}"
          [("pid", toString pid), ("cwd", workingDir)] s)

def run (config : Config) (base : String) (c : Command) (s : σ) : Except Failure (Handle σ) × σ :=
  match makeScratch w base c s with
  | (.error e, s) => (.error e, s)
  | (.ok made, s) =>
    let arguments := c.launchArguments made
    let workingDir := c.workingDir.getD base
    let scratch := if config.cleanupScratch then made else none
    match start w config c arguments workingDir s with
    | (.error e, s) =>
      (.error e, match scratch with
        | some path => w.removeDirectory path s
        | none => s)
    | (.ok pid, s) =>
      (.ok {
        name := c.name, program := c.program, arguments, workingDir, pid
        datadir := made.or (Command.flagValue? "--datadir" c.arguments)
        etherbase := Command.flagValue? "--etherbase" arguments
        config, scratch }, s)

end Launch
end DaemonDialogue
