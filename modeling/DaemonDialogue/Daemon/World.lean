import DaemonDialogue.Daemon.Signal
import DaemonDialogue.Endpoint.Basic
import DaemonDialogue.Expectation.Polling
import DaemonDialogue.File.Tree
import DaemonDialogue.Log.Logger

/-!
# The world around daemons

What a test can do with processes, files and the log, and what it can see of them. A
world may change in any way with everything that is done and while time passes.
-/

namespace DaemonDialogue.Daemon

structure Launch where
  name : String
  program : String
  arguments : List String
  environment : List (String × String)
  workingDir : String
  deriving Repr

/-- A world in which the state of everything is of type `σ`. -/
structure World (σ : Type) extends Surroundings σ where
  log : Log.Level → String → List (String × String) → σ → σ
  count : Log.Level → σ → Nat
  summarize : σ → σ
  files : σ → File.Tree
  setFiles : File.Tree → σ → σ
  draw : σ → String × σ
  stamp : σ → String
  launch : Launch → σ → Except SystemFault Nat × σ
  capture : Nat → Channel → σ → Except SystemFault Unit × σ
  stream : Nat → Channel → σ → Buffer
  write : Nat → List UInt8 → σ → Except SystemFault Unit × σ
  closeInput : Nat → σ → σ
  poll : Nat → σ → Except SystemFault (Option ExitStatus) × σ
  await : Nat → σ → Except SystemFault ExitStatus × σ
  signal : Nat → Signal → σ → Bool × σ
  kill : Nat → σ → Except SystemFault Unit × σ
  connects : Endpoint → σ → Bool

namespace World

variable {σ : Type} (w : World σ)

def trace (message : String) : σ → σ := w.log .trace message []
def debug (message : String) : σ → σ := w.log .debug message []
def info (message : String) : σ → σ := w.log .info message []
def warn (message : String) : σ → σ := w.log .warn message []
def error (message : String) : σ → σ := w.log .error message []

/-- Changes the files, unless that is refused. -/
def changeFiles (change : File.Tree → Except SystemFault File.Tree) (s : σ) :
    Except SystemFault Unit × σ :=
  match change (w.files s) with
  | .ok files => (.ok (), w.setFiles files s)
  | .error fault => (.error fault, s)

def createDirectories (path : String) (s : σ) : Except SystemFault Unit × σ :=
  let (files, result) := (w.files s).createDirectories path
  (result, w.setFiles files s)

def removeDirectory (path : String) (s : σ) : σ :=
  w.setFiles ((w.files s).removeAll path) s

/-- Makes a directory of a name that was not used before, or says at which path it could not. -/
def createFresh (base stem : String) (s : σ) : Except SystemFault String × σ :=
  let (suffix, s) := w.draw s
  let path := Path.join base (stem ++ suffix)
  match w.changeFiles (fun files => files.createDirectory path) s with
  | (.ok (), s) => (.ok path, s)
  | (.error fault, s) => (.error (.other (fault.message ++ " at path " ++ quoted path)), s)

end World
end DaemonDialogue.Daemon
