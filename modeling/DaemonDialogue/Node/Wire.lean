import DaemonDialogue.Node.Console

/-!
# Requests and responses

A client asks for the identity of a node or for the value of an expression, one
request a line, and gets one line for each. What a node offers depends on how it is
reached.
-/

namespace DaemonDialogue.Node

open Json (Decoded Reading)

inductive Transport
  | ipc
  | http
  | ws
  deriving DecidableEq, Repr, Inhabited

namespace Transport

def name : Transport → String
  | .ipc => "ipc"
  | .http => "http"
  | .ws => "ws"

def all : List Transport := [.ipc, .http, .ws]

/-- The interfaces that are offered to those on the same machine. -/
def localModules : String :=
  "admin:1.0 debug:1.0 eth:1.0 ethash:1.0 miner:1.0 net:1.0 personal:1.0 rpc:1.0 trace:1.0 txpool:1.0 web3:1.0"

/-- The interfaces that are offered over the network. -/
def networkModules : String := "eth:1.0 net:1.0 rpc:1.0 web3:1.0"

def modules : Transport → String
  | .ipc => localModules
  | .http | .ws => networkModules

def ofJson (how : Reading) (v : Json.Draft) : Decoded Transport := do
  return all.getD (← Json.unitVariant how (all.map name) v) .ipc

end Transport

inductive Request
  | info
  | eval (expression : String)
  deriving DecidableEq, Repr, Inhabited

namespace Request

def toJson : Request → Json
  | .info => .object [("method", .string "info")]
  | .eval expression => .object [("method", .string "eval"), ("params", .string expression)]

def format : Json.Tagged Request where
  title := "adjacently tagged enum Request"
  tag := "method"
  content := "params"
  names := ["info", "eval"]
  data
    | 0, _, v => do
      Json.unitVariantContent "Request::Info" v
      return .info
    | _, _, v => do return .eval (← Json.text v)
  bare
    | 0 => .ok .info
    | _ => .error (.missingField "params")

def ofJson (v : Json.Draft) : Decoded Request := format.read v

def line (request : Request) : String := request.toJson.compact

end Request

/-- What a node says about itself to a client. -/
structure RemoteInfo where
  node : Info
  modules : String
  transport : Transport
  deriving DecidableEq, Repr, Inhabited

namespace RemoteInfo

def toJson (r : RemoteInfo) : Json :=
  .object [("node", r.node.toJson), ("modules", .string r.modules),
    ("transport", .string r.transport.name)]

def fields (how : Reading) : List Json.Field :=
  [⟨"node", Json.judged (Info.ofJson how), none⟩, ⟨"modules", Json.judged Json.text, none⟩,
    ⟨"transport", Json.judged (Transport.ofJson how), none⟩]

def ofJson (how : Reading) (v : Json.Draft) : Decoded RemoteInfo := do
  match ← Json.record how "struct RemoteInfo" (fields how) v with
  | [node, modules, transport] =>
    return {
      node := ← Info.ofJson how node
      modules := ← Json.text modules
      transport := ← Transport.ofJson how transport }
  | _ => .error .malformed

end RemoteInfo

inductive Response
  | info (remote : RemoteInfo)
  | result (value : Json)
  | error (message : String)
  deriving Repr, Inhabited

namespace Response

def toJson : Response → Json
  | .info remote => .object [("kind", .string "info"), ("data", remote.toJson)]
  | .result value => .object [("kind", .string "result"), ("data", value)]
  | .error message => .object [("kind", .string "error"), ("data", .string message)]

def format : Json.Tagged Response where
  title := "adjacently tagged enum Response"
  tag := "kind"
  content := "data"
  names := ["info", "result", "error"]
  data
    | 0, how, v => do return .info (← RemoteInfo.ofJson how v)
    | 1, _, v => do return .result (← Json.meant v).canonical
    | _, _, v => do return .error (← Json.text v)
  bare _ := .error (.missingField "data")

def ofJson (v : Json.Draft) : Decoded Response := format.read v

def line (response : Response) : String := response.toJson.compact

end Response

def respond (node : Info) (transport : Transport) : Request → Response
  | .info => .info ⟨node, transport.modules, transport⟩
  | .eval expression =>
    match Console.evaluate node expression with
    | .ok value => .result value
    | .error message => .error message

end DaemonDialogue.Node
