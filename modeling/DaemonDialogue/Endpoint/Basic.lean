import DaemonDialogue.Text.Blank
import DaemonDialogue.Text.Cut
import DaemonDialogue.Text.Numeral
import DaemonDialogue.Text.Quoted

/-!
# Endpoints

Where a daemon can be reached: the path of a socket, or a host and a port. A text
names one by a scheme, as a path, or as a host and a port.
-/

namespace DaemonDialogue

/-- Where a daemon can be reached. -/
inductive Endpoint
  | ipc (path : String)
  | tcp (host : String) (port : Nat)
  deriving DecidableEq, Repr, Inhabited

namespace Endpoint

/-- Why a text names no endpoint. -/
inductive Fault
  | empty
  | missingPort (text : String)
  | invalidPort (text port : String)
  deriving DecidableEq, Repr

def Fault.message : Fault → String
  | .empty => "endpoint is empty"
  | .missingPort text => "missing port in " ++ quoted text
  | .invalidPort text port => "invalid port " ++ quoted port ++ " in " ++ quoted text

def isIpc : Endpoint → Bool
  | .ipc _ => true
  | .tcp _ _ => false

/-- The text of an endpoint; a host that has a colon stands in brackets. -/
def render : Endpoint → String
  | .ipc path => "ipc:" ++ path
  | .tcp host port =>
    if host.toList.contains ':' then s!"[{host}]:{port}" else s!"{host}:{port}"

/-- The schemes of sockets on the network with their ports. -/
def schemes : List (String × Nat) :=
  [("http://", 80), ("https://", 443), ("ws://", 80), ("wss://", 443)]

/-- The scheme a text starts with, by its port, and what follows. -/
def schemeOf? (text : List Char) : Option (Nat × List Char) :=
  schemes.findSome? fun (scheme, port) =>
    (Cut.behind? scheme.toList text).map fun rest => (port, rest)

/-- What comes before a path, a query or a fragment. -/
def authority (rest : List Char) : List Char :=
  rest.takeWhile fun c => c != '/' && c != '?' && c != '#'

def looksLikePath (text : List Char) : Bool :=
  text.head? == some '/' || text.head? == some '.' || text.contains '\\' ||
    ".ipc".toList.isSuffixOf text || !text.contains ':'

/-- The host of an authority and its port if there is one; `none` where a bracket is not closed. -/
def hostAndPort? (text : List Char) : Option (List Char × Option (List Char)) :=
  match text with
  | '[' :: rest =>
    (Cut.atFirst? ']' rest).map fun (host, after) => (host, Cut.behind? [':'] after)
  | _ =>
    match Cut.atLast? ':' text with
    | some (host, port) => some (host, some port)
    | none => some (text, none)

/-- The endpoint of an authority; `whole` is the text that is named in faults. -/
def ofAuthority (whole text : List Char) (default? : Option Nat) : Except Fault Endpoint :=
  match hostAndPort? text with
  | none => .error (.missingPort (String.ofList whole))
  | some ([], _) => .error .empty
  | some (host, port?) =>
    match port?, default? with
    | some port, _ =>
      match Numeral.read Numeral.maxU16 (String.ofList port) with
      | .ok n => .ok (.tcp (String.ofList host) n)
      | .error _ => .error (.invalidPort (String.ofList whole) (String.ofList port))
    | none, some n => .ok (.tcp (String.ofList host) n)
    | none, none => .error (.missingPort (String.ofList whole))

/-- The endpoint that a text without blanks around it names. -/
def readTrimmed (text : List Char) : Except Fault Endpoint :=
  if text.isEmpty then .error .empty
  else match Cut.behind? "ipc:".toList text with
    | some [] => .error .empty
    | some path => .ok (.ipc (String.ofList path))
    | none =>
      match schemeOf? text with
      | some (port, rest) => ofAuthority text (authority rest) (some port)
      | none =>
        if looksLikePath text then .ok (.ipc (String.ofList text))
        else ofAuthority text text none

def read (text : String) : Except Fault Endpoint :=
  readTrimmed (Blank.trimChars text.toList)

end Endpoint
end DaemonDialogue
