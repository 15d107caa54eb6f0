import DaemonDialogue.File.Fault
import DaemonDialogue.Node.Wire

/-!
# Faults of nodes

Why a node cannot start or a client gets no answer, told from the outside in: what
failed, and then what made it fail.
-/

namespace DaemonDialogue.Node

/-- Why a node cannot start or a client gets no answer. -/
inductive Fault
  | corruptRecord (path : String) (mismatch : Json.Mismatch)
  | unreadableRecord (path : String) (cause : SystemFault)
  | noDirectory (path : String) (cause : SystemFault)
  | unwritableRecord (path : String) (cause : SystemFault)
  | incompatible (stored storedHash chosen chosenHash : String)
  | unknownChain (name : String)
  | noDatadir (path : String) (cause : SystemFault)
  | noIpcEndpoint (path : String) (cause : SystemFault)
  | noPort (transport : Transport) (port : Nat) (cause : SystemFault)
  | noHome
  | emptyTarget
  | targetWithoutPort (text : String)
  | unsupportedTarget (text : String)
  | cannotConnect (address : String) (cause : SystemFault)
  | cannotSend (cause : SystemFault)
  | hungUp
  | noText (fault : Utf8.Fault)
  | malformedResponse (mismatch : Json.Mismatch)
  | refused (message : String)
  | notAnInfo
  | notAResult
  deriving DecidableEq, Repr

namespace Fault

def causes : Fault → List String
  | .corruptRecord path mismatch => [s!"corrupt genesis record at {path}", mismatch.message]
  | .unreadableRecord path cause => [s!"failed to read {path}", cause.message]
  | .noDirectory path cause => [s!"failed to create {path}", cause.message]
  | .unwritableRecord path cause => [s!"failed to write {path}", cause.message]
  | .incompatible stored storedHash chosen chosenHash =>
    [s!"database contains incompatible genesis (have {stored} {storedHash}, new {chosen} {chosenHash})"]
  | .unknownChain name => ["stored genesis names unknown chain " ++ quoted name]
  | .noDatadir path cause => [s!"failed to create datadir {path}", cause.message]
  | .noIpcEndpoint path cause => [s!"failed to open IPC endpoint {path}: {cause.message}"]
  | .noPort transport port cause =>
    [s!"failed to open {transport.name} endpoint on port {port}: {cause.message}"]
  | .noHome => ["cannot determine home directory, pass --datadir"]
  | .emptyTarget => ["empty attach endpoint"]
  | .targetWithoutPort text => [s!"attach endpoint {text} has no port"]
  | .unsupportedTarget text => [s!"unsupported attach endpoint {text}"]
  | .cannotConnect address cause => [s!"failed to connect to {address}", cause.message]
  | .cannotSend cause => [cause.message]
  | .hungUp => ["node closed the connection"]
  | .noText fault => [fault.message]
  | .malformedResponse mismatch => ["malformed response from node", mismatch.message]
  | .refused message => [s!"node refused info request: {message}"]
  | .notAnInfo => ["unexpected response to info request"]
  | .notAResult => ["unexpected response to eval request"]

def message (f : Fault) : String :=
  ": ".intercalate f.causes

end Fault
end DaemonDialogue.Node
