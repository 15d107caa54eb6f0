import DaemonDialogue.Node.Host

/-!
# Starting and stopping nodes

A node makes its directory, decides on its chain, and opens its socket and its ports. A
socket that cannot be opened matters only if its path was asked for. Whatever is open is
closed again where a later step fails.
-/

namespace DaemonDialogue.Node

structure Settings where
  datadir : String
  chain : Option Chain := none
  networkId : Option Nat := none
  etherbase : Option String := none
  cache : Nat := 64
  ipcPath : Option String := none
  httpPort : Option Nat := none
  wsPort : Option Nat := none
  deriving Repr

structure OpenPort where
  transport : Transport
  port : Nat
  deriving DecidableEq, Repr

/-- A node that runs: who it is, the socket it listens on, and its ports. -/
structure Running where
  info : Info
  socket : Option (Nat × String) := none
  ports : List OpenPort := []
  deriving Repr

/-- A machine and the journal of the node that acts on it. -/
structure Site where
  host : Host
  journal : Journal := {}

namespace Site

def note (s : Site) (topic : Topic) (level : Log.Level) (message : String) : Site :=
  { s with journal := s.journal.note topic level message }

def info (s : Site) (message : String) : Site := s.note .lifecycle .info message

def withFiles (s : Site) (files : File.Tree) : Site :=
  { s with host := { s.host with files } }

def makeDirectory (s : Site) (path : String) : Site × Except SystemFault Unit :=
  let (files, result) := s.host.files.createDirectories path
  (s.withFiles files, result)

def clearSocket (s : Site) (path : String) : Except SystemFault Site :=
  match s.host.files.removeFile path with
  | .ok files => .ok ((s.withFiles files).note .server .debug s!"removed stale IPC socket {path}")
  | .error .notFound => .ok s
  | .error cause => .error cause

def openSocket (s : Site) (path : String) (listener : Nat) : Except SystemFault Site :=
  (s.host.files.bind path listener).map s.withFiles

def register (s : Site) (node : Info) : Site :=
  { s with host := { s.host with
      listeners := (s.host.nextListener, node) :: s.host.listeners
      nextListener := s.host.nextListener + 1 } }

/-- Opens the socket of a node: makes its directory, removes what is in the way, and binds. What
the steps before a failing one did stays. -/
def bindSocket (s : Site) (node : Info) (path : String) : Site × Except SystemFault Nat :=
  match s.makeDirectory ((Path.parent? path).getD "") with
  | (s, .error cause) => (s, .error cause)
  | (s, .ok ()) =>
    match s.clearSocket path with
    | .error cause => (s, .error cause)
    | .ok s =>
      match s.openSocket path s.host.nextListener with
      | .error cause => (s, .error cause)
      | .ok opened => (opened.register node, .ok s.host.nextListener)

/-- Stops listening on a socket, whose path is removed whatever is there by now. -/
def closeSocket (s : Site) (listener : Nat) (path : String) : Site :=
  let files := (s.host.files.removeFile path).toOption.getD s.host.files
  { s with host := { s.host with
      files := files.unlisten listener
      listeners := s.host.listeners.filter fun l => l.1 != listener } }

def closePort (s : Site) (p : OpenPort) : Site :=
  { s with host := s.host.freePort p.port }.note .server .info s!"{p.transport.name} endpoint closed"

end Site

namespace Running

def stop (r : Running) (s : Site) : Site :=
  match r.socket with
  | none => r.ports.foldl Site.closePort s
  | some (listener, path) =>
    (r.ports.foldl Site.closePort (s.closeSocket listener path)).info "IPC endpoint closed"

/-- Evaluates expressions over the socket of a node; nothing without a socket. -/
def ask (r : Running) (s : Site) (expressions : List String) :
    List (Except Fault (Except String Json)) :=
  match r.socket with
  | none => []
  | some (_, path) =>
    match s.host.connect (.ipc path) with
    | .ok node => Client.evalAll (Server.peer node .ipc) { state := 0 } expressions
    | .error fault => [.error fault]

end Running

namespace Settings

def socketPath (settings : Settings) : String :=
  Target.socketPath settings.datadir settings.ipcPath

def network (settings : Settings) (chain : Chain) : Nat :=
  settings.networkId.getD chain.networkId

def identity (settings : Settings) (chain : Chain) : Info where
  chain := chain.name
  networkId := settings.network chain
  chainId := chain.chainId
  genesisHash := chain.genesisHash
  etherbase := settings.etherbase.getD zeroAddress
  datadir := settings.datadir

def ports (settings : Settings) : List OpenPort :=
  (settings.httpPort.toList.map (OpenPort.mk .http)) ++ (settings.wsPort.toList.map (OpenPort.mk .ws))

def openSocket (settings : Settings) (r : Running) (s : Site) : Site × Outcome Running :=
  let path := settings.socketPath
  match s.bindSocket r.info path with
  | (s, .ok listener) =>
    (s.info s!"IPC endpoint opened url={path}", .done { r with socket := some (listener, path) })
  | (s, .error cause) =>
    if settings.ipcPath.isNone then
      (s.note .lifecycle .warn s!"IPC endpoint unavailable path={path} err={cause.message}", .done r)
    else (r.stop s, .failed (.noIpcEndpoint path cause))

def opened (p : OpenPort) : String :=
  match p.transport with
  | .http => s!"HTTP server started endpoint=http://127.0.0.1:{p.port}"
  | _ => s!"WebSocket enabled url=ws://127.0.0.1:{p.port}"

def openPorts (r : Running) (s : Site) : List OpenPort → Site × Outcome Running
  | [] => (s, .done r)
  | p :: rest =>
    match s.host.takePort p.port with
    | .error cause => (r.stop s, .failed (.noPort p.transport p.port cause))
    | .ok host =>
      openPorts { r with ports := r.ports ++ [p] } ({ s with host }.info (opened p)) rest

def resolveChain (settings : Settings) (s : Site) : Site × Outcome Chain :=
  let (p, outcome) :=
    Premises.resolve ⟨s.host.files, s.journal⟩ settings.datadir settings.chain
  ({ s.withFiles p.files with journal := p.journal }, outcome)

def database (settings : Settings) : String :=
  Path.join (Path.join settings.datadir "testnode") "chaindata"

def startOn (settings : Settings) (chain : Chain) (s : Site) : Site × Outcome Running :=
  let network := settings.network chain
  let s := s.info s!"Initialised chain configuration chain={chain.name} chain_id={chain.chainId}"
  let s := s.info s!"Initialising Ethereum protocol network={network}"
  match settings.openSocket { info := settings.identity chain } s with
  | (s, .done r) =>
    match openPorts r s settings.ports with
    | (s, .done r) => (s.info s!"Started node network={network} chain={chain.name}", .done r)
    | (s, outcome) => (s, outcome)
  | (s, outcome) => (s, outcome)

def start (settings : Settings) (s : Site) : Site × Outcome Running :=
  match s.makeDirectory settings.datadir with
  | (s, .error cause) => (s, .failed (.noDatadir settings.datadir cause))
  | (s, .ok ()) =>
    let s := s.info s!"Starting Testnode version={version}"
    let s := s.info
      s!"Allocated cache and file handles database={settings.database} cache={settings.cache}MiB"
    match settings.resolveChain s with
    | (s, .done chain) => settings.startOn chain s
    | (s, .failed fault) => (s, .failed fault)
    | (s, .crashed) => (s, .crashed)

end Settings
end DaemonDialogue.Node
