import DaemonDialogue.Log.Logger
import DaemonDialogue.Stream.Line

/-!
# Capturing output

Everything a process writes goes into a buffer as it comes, and line by line into the
log. A line is complete with its line feed; the last one may lack it. Reading goes on
until the stream ends or fails, an interruption apart.
-/

namespace DaemonDialogue

/-- What one attempt to read brings; nothing at all is the end of the stream. -/
inductive ReadResult
  | bytes (piece : List UInt8)
  | interrupted
  | failed (message : String)
  deriving DecidableEq, Repr

/-- The stream that is captured: a channel of a process. -/
structure CaptureSource where
  channel : Channel
  name : String
  pid : Nat
  deriving DecidableEq, Repr

/-- A capture: the buffer, the line that is not complete, and the log. -/
structure Capture where
  buffer : Buffer := {}
  pending : List UInt8 := []
  logger : Logger

namespace Capture

def dropLineEnds (text : List Char) : List Char :=
  (text.reverse.dropWhile fun c => c == '\n' || c == '\r').reverse

def lineText (raw : List UInt8) : String :=
  String.ofList (dropLineEnds (Utf8.decodeChars raw))

def mirror (source : CaptureSource) (logger : Logger) (raw : List UInt8) : Logger :=
  logger.processLine source.channel source.name source.pid (lineText raw)

def take (c : Capture) (source : CaptureSource) (piece : List UInt8) : Capture :=
  let (lines, pending) := Line.split (c.pending ++ piece)
  { buffer := c.buffer.append piece
    pending
    logger := lines.foldl (mirror source) c.logger }

/-- The message about a stream that cannot be read further. -/
def stopped (source : CaptureSource) (message : String) : String :=
  s!"{source.name}:{source.pid} {source.channel.name} drain stopped: {message}"

/-- The end of a capture: the last line is logged and the buffer closed. -/
def finish (c : Capture) (source : CaptureSource) : Capture :=
  { buffer := c.buffer.close
    pending := []
    logger := if c.pending.isEmpty then c.logger else mirror source c.logger c.pending }

def run (source : CaptureSource) (c : Capture) : List ReadResult → Capture
  | [] => c.finish source
  | .bytes [] :: _ => c.finish source
  | .bytes piece :: rest => run source (c.take source piece) rest
  | .interrupted :: rest => run source c rest
  | .failed message :: _ =>
    Capture.finish { c with logger := c.logger.debug (stopped source message) } source

end Capture
end DaemonDialogue
