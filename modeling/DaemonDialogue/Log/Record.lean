import DaemonDialogue.Json.Decode
import DaemonDialogue.Log.Entry

/-!
# Log records

An entry as a line of JSON, and the entry that such a line stands for. An empty
context is left out.
-/

namespace DaemonDialogue

open Json (Decoded Reading)

def Channel.ofJson (how : Reading) (v : Json.Draft) : Decoded Channel := do
  match ← Json.unitVariant how ["stdout", "stderr"] v with
  | 0 => return .stdout
  | _ => return .stderr

namespace Log

def Level.ofJson (how : Reading) (v : Json.Draft) : Decoded Level := do
  return Level.all.getD (← Json.unitVariant how (Level.all.map Level.name) v) .trace

def Source.toJson : Source → Json
  | .harness => .object [("kind", .string "harness")]
  | .process name pid channel =>
    .object [("kind", .string "process"), ("name", .string name), ("pid", .integer pid),
      ("stream", .string channel.name)]

def Source.processFields : List Json.Field :=
  [⟨"name", Json.judged Json.text, none⟩, ⟨"pid", Json.judged Json.u32, none⟩,
    ⟨"stream", Json.judged (Channel.ofJson .kept), none⟩]

def Source.processOfJson (v : Json.Draft) : Decoded Source := do
  match ← Json.record .kept "struct variant LogSource::Process" processFields v with
  | [name, pid, channel] =>
    return .process (← Json.text name) (← Json.u32 pid) (← Channel.ofJson .kept channel)
  | _ => .error .malformed

/-- The harness has no fields; others in an object do not count. -/
def Source.harnessOfJson : Json.Draft → Decoded Source
  | .array items =>
    if items.isEmpty then .ok .harness
    else .error (Json.leftOver .kept 0 items.length)
  | _ => .ok .harness

def Source.ofJson (v : Json.Draft) : Decoded Source := do
  let (i, rest) ← Json.innerTag "internally tagged enum LogSource" "kind" ["harness", "process"] v
  if i == 0 then harnessOfJson rest else processOfJson rest

def contextJson (context : List (String × String)) : Json :=
  .array (context.map fun (key, value) => .array [.string key, .string value])

def contextOfJson : Json.Draft → Decoded (List (String × String)) :=
  Json.sequence (Json.pair Json.text Json.text)

def Entry.toJson (e : Entry) : Json :=
  .object ([("timestamp", .string e.timestamp.render), ("elapsed_ms", .integer e.elapsedMs),
    ("level", .string e.level.name), ("source", e.source.toJson),
    ("message", .string e.message)] ++
      if e.context.isEmpty then [] else [("context", contextJson e.context)])

def timestampOfJson (v : Json.Draft) : Decoded Timestamp := do
  let text ← Json.textNamed "an RFC 3339 formatted date and time string" v
  match Timestamp.read text with
  | some t => return t
  | none => .error .malformed

def Entry.fields : List Json.Field :=
  [⟨"timestamp", Json.judged timestampOfJson, none⟩, ⟨"elapsed_ms", Json.judged Json.u64, none⟩,
    ⟨"level", Json.judged (Level.ofJson .direct), none⟩, ⟨"source", Json.judged Source.ofJson, none⟩,
    ⟨"message", Json.judged Json.text, none⟩,
    ⟨"context", Json.judged contextOfJson, some (.array [])⟩]

def Entry.ofJson (v : Json.Draft) : Decoded Entry := do
  match ← Json.record .direct "struct LogEntry" fields v with
  | [timestamp, elapsedMs, level, source, message, context] =>
    return {
      timestamp := ← timestampOfJson timestamp
      elapsedMs := ← Json.u64 elapsedMs
      level := ← Level.ofJson .direct level
      source := ← Source.ofJson source
      message := ← Json.text message
      context := ← contextOfJson context }
  | _ => .error .malformed

def Entry.line (e : Entry) : String :=
  e.toJson.compact

def Entry.ofLine (line : String) : Decoded Entry :=
  Json.decode Entry.ofJson line

end Log
end DaemonDialogue
