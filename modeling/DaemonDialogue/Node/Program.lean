import DaemonDialogue.Node.Arguments
import DaemonDialogue.Node.Filter
import DaemonDialogue.Node.Lifecycle

/-!
# The program

A run of the program starts a node or attaches to one, evaluates an expression, holds a
console session or serves, and ends by itself or waits until it is told to stop.
-/

namespace DaemonDialogue.Node

structure Call where
  arguments : List String
  filter : Option String := none
  input : Console.Input := {}
  deriving Repr

/-- How far a run has come: it has ended with a code, it was refused for its arguments, it crashed,
or it waits to be told to stop, with the node that it runs, if it runs one. -/
inductive Phase
  | exited (code : Nat)
  | refused (fault : CommandLine.Fault)
  | crashed
  | waiting (node : Option Running)
  deriving Repr

/-- A run: what it has printed and noted, and how far it has come. -/
structure Run where
  output : String := ""
  journal : Journal := {}
  phase : Phase
  
namespace Run

/-- The code of a run that was told to stop and could not take it. -/
def terminated : Nat := 128 + 15

def crashCode : Nat := 101

def code? (r : Run) : Option Nat :=
  match r.phase with
  | .exited code => some code
  | .refused _ => some 1
  | .crashed => some crashCode
  | .waiting _ => none

/-- What a run wrote besides its output, with one time for all lines. -/
def diagnostics (time : String) (r : Run) : String :=
  match r.phase with
  | .refused fault => "Incorrect Usage: " ++ fault.message
  | _ => r.journal.render time

def fail (output : String) (s : Site) (fault : Fault) : Site × Run :=
  let s := s.note .program .error s!"Fatal: {fault.message}"
  (s, { output, journal := s.journal, phase := .exited 1 })

def exit (output : String) (s : Site) (succeeded : Bool) : Site × Run :=
  (s, { output, journal := s.journal, phase := .exited (if succeeded then 0 else 1) })

def wait (output : String) (s : Site) (node : Option Running) : Site × Run :=
  (s, { output, journal := s.journal, phase := .waiting node })

def crash (s : Site) : Site × Run :=
  (s, { journal := s.journal, phase := .crashed })

def isValue (answer : Except String Json) : Bool := answer.isOk

end Run

namespace Arguments

def directory (a : Arguments) (h : Host) : Except Fault String :=
  match a.datadir, h.home with
  | some path, _ => .ok path
  | none, some home => .ok (Path.join home ".testnode")
  | none, none => .error .noHome

def endpointPort (asked : Bool) (port : Option Nat) (usual : Nat) : Option Nat :=
  if asked || port.isSome then some (port.getD usual) else none

def settings (a : Arguments) (datadir : String) : Settings where
  datadir := datadir
  chain := a.chain
  networkId := a.networkId
  etherbase := a.etherbase
  cache := a.cache
  ipcPath := a.ipcPath
  httpPort := endpointPort a.http a.httpPort 8545
  wsPort := endpointPort a.ws a.wsPort 8546

def noteOptions (a : Arguments) (s : Site) : Site :=
  let s :=
    if a.noDiscover then
      s.note .program .info
        s!"Peer discovery disabled port={a.port} maxpeers={a.maxPeers} nat={a.nat}"
    else s
  if ["full", "snap", "light"].contains a.syncMode then s
  else
    s.note .program .warn ("Unknown sync mode " ++ quoted a.syncMode ++ ", using full sync")

def target (a : Arguments) (h : Host) (endpoint : Option String) : Except Fault Target :=
  match endpoint with
  | some text => Target.read text
  | none => (a.directory h).map fun datadir => .ipc (Target.socketPath datadir a.ipcPath)

def execRemote {σ : Type} (peer : Peer σ) (expression : String) (c : Connection σ) (s : Site) :
    Site × Run :=
  match (Client.eval peer expression c).1 with
  | .error fault => Run.fail "" s fault
  | .ok answer => Run.exit (Console.show_ answer ++ "\n") s (Run.isValue answer)

def attachConsole {σ : Type} (peer : Peer σ) (input : Console.Input) (c : Connection σ) (s : Site) :
    Site × Run :=
  match Client.info peer c with
  | (.error fault, _) => Run.fail "" s fault
  | (.ok remote, c) =>
    let t := Console.run (Client.evaluator peer) input c
    let output := Client.banner remote ++ t.output
    match t.ending with
    | .finished => Run.exit output s true
    | .waiting => Run.wait output s none
    | .unreadable fault => Run.fail output s (.noText fault)
    | .failed fault => Run.fail output s fault

def attach (a : Arguments) (input : Console.Input) (endpoint : Option String) (s : Site) :
    Site × Run :=
  match a.target s.host endpoint with
  | .error fault => Run.fail "" s fault
  | .ok target =>
    match s.host.connect target with
    | .error fault => Run.fail "" s fault
    | .ok node =>
      let peer := Server.peer node target.transport
      match a.exec with
      | some expression => execRemote peer expression { state := 0 } s
      | none => attachConsole peer input { state := 0 } s

def ownConsole (r : Running) (input : Console.Input) (s : Site) : Site × Run :=
  let t := Console.run (Console.ofNode r.info) input ()
  let output := Console.welcome r.info Transport.localModules true ++ t.output
  match t.ending with
  | .finished => Run.exit output (r.stop s) true
  | .waiting => Run.wait output s (some r)
  | .unreadable fault => Run.fail output (r.stop s) (.noText fault)
  | .failed e => nomatch e

/-- What a node does once it runs. -/
def operate (a : Arguments) (input : Console.Input) (r : Running) (s : Site) : Site × Run :=
  match a.exec with
  | some expression =>
    let answer := Console.evaluate r.info expression
    Run.exit (Console.show_ answer ++ "\n") (r.stop s) (Run.isValue answer)
  | none => if a.task = .console then ownConsole r input s else Run.wait "" s (some r)

def serve (a : Arguments) (input : Console.Input) (s : Site) : Site × Run :=
  match a.directory s.host with
  | .error fault => Run.fail "" s fault
  | .ok datadir =>
    match (a.settings datadir).start (a.noteOptions s) with
    | (s, .done r) => a.operate input r s
    | (s, .failed fault) => Run.fail "" s fault
    | (s, .crashed) => Run.crash s

end Arguments

/-- Starts a run of the program; it comes as far as it can with its input. -/
def Call.start (call : Call) (h : Host) : Host × Run :=
  match Arguments.read call.arguments with
  | .error (.fault fault) => (h, { phase := .refused fault })
  | .error .version => (h, { output := s!"testnode {version}\n", phase := .exited 0 })
  | .error .help =>
    (h, { output := "Scripted stand-in node daemon\n\nUsage: testnode [OPTIONS] [COMMAND]\n", phase := .exited 0 })
  | .ok a =>
    let s : Site := { host := h, journal := { visible := (Filter.inForce a.verbose call.filter).visible } }
    let (s, run) := match a.task with
      | .attach endpoint => a.attach call.input endpoint s
      | _ => a.serve call.input s
    (s.host, run)

def Call.readsInput (call : Call) : Bool :=
  match Arguments.read call.arguments with
  | .ok a => a.exec.isNone && (a.task matches .console | .attach _)
  | .error _ => false

/-- The file in which a run keeps the record of its chain, if it runs a node. -/
def Call.record? (call : Call) (h : Host) : Option String :=
  match Arguments.read call.arguments with
  | .ok a =>
    if a.task matches .attach _ then none
    else (a.directory h).toOption.map GenesisRecord.path
  | .error _ => none

def Run.interrupt (run : Run) (h : Host) : Host × Run :=
  match run.phase with
  | .waiting (some node) =>
    let s : Site := { host := h, journal := run.journal }
    let s := node.stop (s.note .program .info "Got interrupt, shutting down...")
    (s.host, { run with journal := s.journal, phase := .exited 0 })
  | .waiting none => (h, { run with phase := .exited terminated })
  | _ => (h, run)

/-- Runs calls one after the other. One that stays goes on until the others are done, and then is
told to stop, the last one first. -/
def runAll (h : Host) : List (Call × Bool) → Host × List Run
  | [] => (h, [])
  | (call, stays) :: rest =>
    let (h, run) := call.start h
    let (h, run) := if stays then (h, run) else run.interrupt h
    let (h, runs) := runAll h rest
    let (h, run) := run.interrupt h
    (h, run :: runs)

end DaemonDialogue.Node
