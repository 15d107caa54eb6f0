import DaemonDialogue.Node.Fault
import DaemonDialogue.Node.Server

/-!
# Clients

A client sends a request as a line and takes the next line that comes back as the
response. Whoever is on the other side may send more or less than that.
-/

namespace DaemonDialogue.Node

/-- Who is on the other side of a connection: what comes back for a line; nothing does where the
other side hangs up. -/
abbrev Peer (σ : Type) := List UInt8 → σ → Option (List UInt8) × σ

/-- A connection: what has come back and is not taken, whether more can come, and the peer. -/
structure Connection (σ : Type) where
  received : List UInt8 := []
  ended : Bool := false
  state : σ

namespace Client

variable {σ : Type} (peer : Peer σ)

def send (line : String) (c : Connection σ) : Except Fault Unit × Connection σ :=
  if c.ended then (.error (.cannotSend .brokenPipe), c)
  else
    match peer (Utf8.encode line ++ [Newline.lineFeed]) c.state with
    | (some bytes, state) => (.ok (), { c with received := c.received ++ bytes, state })
    | (none, state) => (.ok (), { c with ended := true, state })

/-- Takes the next line that came back. -/
def receive (c : Connection σ) : Except Fault String × Connection σ :=
  match Line.all c.received with
  | [] => (.error .hungUp, c)
  | line :: rest =>
    let c := { c with received := rest.flatten }
    match Line.text line with
    | .ok text => (.ok text, c)
    | .error fault => (.error (.noText fault), c)

def call (request : Request) (c : Connection σ) : Except Fault Response × Connection σ :=
  match send peer request.line c with
  | (.error fault, c) => (.error fault, c)
  | (.ok (), c) =>
    match receive c with
    | (.error fault, c) => (.error fault, c)
    | (.ok reply, c) =>
      match Json.decode Response.ofJson reply with
      | .ok response => (.ok response, c)
      | .error mismatch => (.error (.malformedResponse mismatch), c)

def info (c : Connection σ) : Except Fault RemoteInfo × Connection σ :=
  match call peer .info c with
  | (.error fault, c) => (.error fault, c)
  | (.ok (.info remote), c) => (.ok remote, c)
  | (.ok (.error message), c) => (.error (.refused message), c)
  | (.ok (.result _), c) => (.error .notAnInfo, c)

def eval (expression : String) (c : Connection σ) :
    Except Fault (Except String Json) × Connection σ :=
  match call peer (.eval expression) c with
  | (.error fault, c) => (.error fault, c)
  | (.ok (.result value), c) => (.ok (.ok value), c)
  | (.ok (.error message), c) => (.ok (.error message), c)
  | (.ok (.info _), c) => (.error .notAResult, c)

def evalAll (c : Connection σ) : List String → List (Except Fault (Except String Json))
  | [] => []
  | expression :: rest =>
    let (value, c) := eval peer expression c
    value :: evalAll c rest

def evaluator : Console.Evaluator (Connection σ) Fault := fun expression c =>
  eval peer expression c

/-- The banner for what a node said about itself. -/
def banner (remote : RemoteInfo) : String :=
  Console.welcome remote.node remote.modules (remote.transport == .ipc)

end Client

/-- A node as a peer: the state is how much it has read from the connection. -/
def Server.peer (node : Info) (transport : Transport) : Peer Nat := fun line taken =>
  let piece := line.take (maxConnection - taken)
  if piece.isEmpty then (none, taken)
  else
    match Line.text piece with
    | .error _ => (none, taken)
    | .ok text =>
      (some ((reply? node transport text).toList.flatMap fun r => Utf8.encode (r.line ++ "\n")),
        taken + piece.length)

/-- A peer with prepared replies: the state is those left and the lines it was asked, in reverse. -/
def Peer.ofReplies : Peer (List (List UInt8) × List String) := fun line (replies, asked) =>
  let asked := Utf8.decode (Line.content line) :: asked
  match replies with
  | [] => (none, [], asked)
  | reply :: rest => (some (reply ++ [Newline.lineFeed]), rest, asked)

end DaemonDialogue.Node
