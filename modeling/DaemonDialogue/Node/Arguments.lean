import DaemonDialogue.CommandLine.Reader
import DaemonDialogue.Node.Chain

/-!
# Arguments of a node

What the command line of a node decides. A directory and an expression may also be
given behind a command, and count more there.
-/

namespace DaemonDialogue.Node

open CommandLine (Switch Grammar Given Value Reading)

/-- What a node is asked to do besides running. -/
inductive Task
  | serve
  | console
  | attach (endpoint : Option String)
  deriving DecidableEq, Repr

structure Arguments where
  chain : Option Chain := none
  networkId : Option Nat := none
  syncMode : String := "snap"
  datadir : Option String := none
  port : Nat := 30303
  nat : String := "any"
  noDiscover : Bool := false
  maxPeers : Nat := 50
  cache : Nat := 1024
  ipcPath : Option String := none
  http : Bool := false
  httpPort : Option Nat := none
  ws : Bool := false
  wsPort : Option Nat := none
  etherbase : Option String := none
  exec : Option String := none
  verbose : Bool := false
  task : Task := .serve
  deriving DecidableEq, Repr

namespace Arguments

/-- The flags that choose a chain, of which only one may be given. -/
def chainFlags : List String :=
  ["mainnet", "classic", "testnet", "ropsten", "rinkeby", "goerli", "kotti", "mordor", "yolov2"]

def datadirSwitch : Switch := { name := "datadir", effect := .value .path }
def execSwitch : Switch := { name := "exec", effect := .value .text }
def helpSwitch : Switch := { name := "help", short := some 'h', effect := .help }

/-- The options that commands take too. -/
def sharedSwitches : List Switch := [datadirSwitch, execSwitch, helpSwitch]

def command : Grammar where
  name := "testnode"
  switches := chainFlags.map (fun name => { name }) ++ sharedSwitches ++
    [{ name := "networkid", effect := .value .number },
      { name := "syncmode", effect := .value .text },
      { name := "port", effect := .value .port },
      { name := "nat", effect := .value .text },
      { name := "nodiscover" },
      { name := "maxpeers", effect := .value .number },
      { name := "cache", effect := .value .number },
      { name := "ipcpath", effect := .value .path },
      { name := "http" },
      { name := "http.port", effect := .value .port },
      { name := "ws" },
      { name := "ws.port", effect := .value .port },
      { name := "etherbase", effect := .value .text },
      { name := "verbose", short := some 'v' },
      { name := "version", short := some 'V', effect := .version }]
  commands :=
    [{ name := "console", switches := sharedSwitches },
      { name := "attach", switches := sharedSwitches, words := 1 },
      { name := "help", switches := [] }]

def text? (values : List (String × Value)) (name : String) : Option String :=
  match values.lookup name with
  | some (.text content) => some content
  | _ => none

def number? (values : List (String × Value)) (name : String) : Option Nat :=
  match values.lookup name with
  | some (.number n) => some n
  | _ => none

def isSet (values : List (String × Value)) (name : String) : Bool :=
  (values.lookup name).isSome

def taskOf : Option (String × List (String × Value) × List String) → Task
  | none => .serve
  | some (name, _, words) => if name = "attach" then .attach words.head? else .console

def ofGiven (given : Given) : Arguments :=
  let values := given.values
  let below := (given.command.map fun c => c.2.1).getD []
  { chain := (chainFlags.find? (isSet values)).bind Chain.named?
    networkId := number? values "networkid"
    syncMode := (text? values "syncmode").getD "snap"
    datadir := (text? below "datadir").or (text? values "datadir")
    port := (number? values "port").getD 30303
    nat := (text? values "nat").getD "any"
    noDiscover := isSet values "nodiscover"
    maxPeers := (number? values "maxpeers").getD 50
    cache := (number? values "cache").getD 1024
    ipcPath := text? values "ipcpath"
    http := isSet values "http"
    httpPort := number? values "http.port"
    ws := isSet values "ws"
    wsPort := number? values "ws.port"
    etherbase := text? values "etherbase"
    exec := (text? below "exec").or (text? values "exec")
    verbose := isSet values "verbose"
    task := taskOf given.command }

def read (arguments : List String) : Reading Arguments :=
  (command.read chainFlags arguments).map ofGiven

end Arguments
end DaemonDialogue.Node
