import DaemonDialogue.Node.Client
import DaemonDialogue.Node.Genesis
import DaemonDialogue.Node.Target

/-!
# Hosts

What the nodes and clients on one machine share: the files with the sockets in them, the
nodes that listen, and the ports that are taken. Ports can be taken, but the machine has no
network over which they could be reached.
-/

namespace DaemonDialogue.Node

/-- A machine on which nodes run. -/
structure Host where
  files : File.Tree
  home : Option String := none
  listeners : List (Nat × Info) := []
  nextListener : Nat := 0
  ports : List Nat := []
  deriving Repr, Inhabited

namespace Host

/-- Is a host name an address of its own, or known without asking? -/
def isNumeric (name : List Char) : Bool :=
  name == "localhost".toList || name.head? == some '[' ||
    (!name.isEmpty && name.all fun c => c.isDigit || c == '.')

/-- Why an address on the network cannot be reached. -/
def unreached (address : String) : SystemFault :=
  match Cut.atLast? ':' address.toList with
  | none => .noSocketAddress
  | some (name, port) =>
    match Numeral.read Numeral.maxU16 (String.ofList port) with
    | .error _ => .noPortValue
    | .ok _ =>
      if name.isEmpty then .unknownHost
      else if isNumeric name then .unreachable
      else .nameServerSilent

def connectSocket (h : Host) (path : String) : Except SystemFault Info := do
  match h.listeners.lookup (← h.files.connect path) with
  | some node => return node
  | none => .error .refused

def connect (h : Host) : Target → Except Fault Info
  | .ipc path =>
    match h.connectSocket path with
    | .ok node => .ok node
    | .error cause => .error (.cannotConnect path cause)
  | .tcp _ address => .error (.cannotConnect address (unreached address))

/-- Takes a port; the port zero stands for any that is free. -/
def takePort (h : Host) (port : Nat) : Except SystemFault Host :=
  if port = 0 then .ok h
  else if h.ports.contains port then .error .addressInUse
  else .ok { h with ports := port :: h.ports }

def freePort (h : Host) (port : Nat) : Host :=
  { h with ports := h.ports.filter (· != port) }

end Host
end DaemonDialogue.Node
