import DaemonDialogue.Node.Program
import Std.Time.DateTime.Timestamp

/-!
# The node on a command line

Reads what a run of the node is given, runs it and writes what it leaves: its output,
its journal, the record of its chain and its code.
-/

open DaemonDialogue Node

namespace DaemonDialogue.Main

def placeOf (path : String) : File.Place :=
  (Path.components path).filterMap fun
    | .name name => some (Utf8.encodeChars name)
    | _ => none

/-- The files of a run: the directory it runs in, and the record of the chain if there is one. -/
def filesOf (directory : String) (record : Option (String × ByteArray)) : File.Tree :=
  let files := { (File.Tree.createDirectories {} directory).1 with workingDir := placeOf directory }
  match record with
  | some (path, content) => files.place path content.toList
  | none => files

def contentOf (path : String) : IO (Option ByteArray) := do
  match ← (IO.FS.readBinFile path).toBaseIO with
  | .ok content => return some content
  | .error _ => return none

partial def readRest (input : IO.FS.Stream) (read : ByteArray) : IO ByteArray := do
  let piece ← input.read 65536
  if piece.isEmpty then return read else readRest input (read ++ piece)

def keepRecord (files : File.Tree) (path : String) : IO Unit := do
  match files.read path with
  | .ok content =>
    IO.FS.createDirAll ((Path.parent? path).getD "")
    IO.FS.writeBinFile path ⟨content.toArray⟩
  | .error _ => return

/-- Stays until the process is told to stop. -/
partial def stay : IO Unit := do
  IO.sleep 1000
  stay

end DaemonDialogue.Main

open DaemonDialogue.Main in
def main (arguments : List String) : IO UInt32 := do
  let blank : Call := { arguments, filter := ← IO.getEnv "TESTNODE_LOG" }
  let home ← IO.getEnv "HOME"
  let directory := toString (← IO.currentDir)
  let record := blank.record? { files := {}, home }
  let content ← match record with
    | some path => contentOf path
    | none => pure none
  let input ← if blank.readsInput then readRest (← IO.getStdin) .empty else pure .empty
  let call := { blank with input := { bytes := input.toList } }
  let known := record.bind fun path => content.map fun content => (path, content)
  let (host, run) := call.start { files := filesOf directory known, home }
  let now ← Std.Time.Timestamp.now
  let time := (Timestamp.ofMillis (now.toMillisecondsSinceUnixEpoch.val.toNat)).journalText
  IO.print run.output
  IO.eprint (run.diagnostics time)
  match record with
  | some path => keepRecord host.files path
  | none => pure ()
  match run.code? with
  | some code => return UInt32.ofNat code
  | none =>
    (← IO.getStdout).flush
    stay
    return 0
