import DaemonDialogue.Node.Wire

/-!
# Serving a connection

A server answers every line that is not blank with one line. A line that is too long
or no request is answered with an error; one that is no text ends the connection. After
a fixed number of bytes no more are read.
-/

namespace DaemonDialogue.Node.Server

/-- The longest line that is read, in bytes. -/
def maxLine : Nat := 64 * 1024

/-- How much is read from one connection, in bytes. -/
def maxConnection : Nat := 16 * 1024 * 1024

def answer (node : Info) (transport : Transport) (line : String) : Response :=
  if maxLine < line.utf8ByteSize then .error "request too large"
  else
    match Json.decode Request.ofJson line with
    | .ok request => respond node transport request
    | .error e => .error ("invalid request: " ++ e.message)

/-- The answer to a line, if it is not blank. -/
def reply? (node : Info) (transport : Transport) (line : String) : Option Response :=
  if (trim line).isEmpty then none else some (answer node transport (trim line))

/-- The answers to lines, up to the first that is no text. -/
def replies (node : Info) (transport : Transport) : List (List UInt8) → List Response
  | [] => []
  | raw :: rest =>
    match Line.text raw with
    | .error _ => []
    | .ok line => (reply? node transport line).toList ++ replies node transport rest

/-- The answers to everything that a client sends. -/
def serve (node : Info) (transport : Transport) (sent : List UInt8) : List Response :=
  replies node transport (Line.all (sent.take maxConnection))

end DaemonDialogue.Node.Server
