import DaemonDialogue.File.Path
import DaemonDialogue.Node.Fault
import DaemonDialogue.Text.Cut

/-!
# Where to attach

A client attaches to the socket of a node or to an address on the network. A text
that is no address names a socket.
-/

namespace DaemonDialogue.Node

inductive Target
  | ipc (path : String)
  | tcp (transport : Transport) (address : String)
  deriving DecidableEq, Repr, Inhabited

namespace Target

def transport : Target → Transport
  | .ipc _ => .ipc
  | .tcp transport _ => transport

def schemes : List (String × Transport) := [("http://", .http), ("ws://", .ws)]

def schemeOf? (text : List Char) : Option (Transport × List Char) :=
  schemes.findSome? fun (scheme, transport) =>
    (Cut.behind? scheme.toList text).map fun rest => (transport, rest)

def occursIn (part : List Char) : List Char → Bool
  | [] => part.isEmpty
  | c :: rest => part.isPrefixOf (c :: rest) || occursIn part rest

/-- The target that a text without blanks around it names. -/
def readTrimmed (text : List Char) : Except Fault Target :=
  if text.isEmpty then .error .emptyTarget
  else
    match Cut.behind? "ipc:".toList text with
    | some path => .ok (.ipc (String.ofList path))
    | none =>
      match schemeOf? text with
      | some (transport, rest) =>
        let address := rest.takeWhile (· != '/')
        if address.contains ':' then .ok (.tcp transport (String.ofList address))
        else .error (.targetWithoutPort (String.ofList text))
      | none =>
        if occursIn "://".toList text then .error (.unsupportedTarget (String.ofList text))
        else .ok (.ipc (String.ofList text))

def read (text : String) : Except Fault Target :=
  readTrimmed (Blank.trimChars text.toList)

def socketName : String := "testnode.ipc"

/-- The path of the socket of a node; a relative one is inside its directory. -/
def socketPath (datadir : String) : Option String → String
  | some path => Path.join datadir path
  | none => Path.join datadir socketName

end Target
end DaemonDialogue.Node
