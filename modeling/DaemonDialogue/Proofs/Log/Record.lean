import DaemonDialogue.Log.Record
import DaemonDialogue.Proofs.Json.Record
import DaemonDialogue.Proofs.Json.Value
import DaemonDialogue.Proofs.Json.Layout
import DaemonDialogue.Proofs.Time.Timestamp

/-!
# Entries as lines

An entry is written without controls and is read back from its line: its source from an object
that names the kind within, and an empty context from the lack of one.
-/

namespace DaemonDialogue

open Json (Reading)

theorem Channel.ofJson_draft (channel : Channel) (how : Reading) :
    Channel.ofJson how (.string channel.name) = .ok channel := by
  cases channel <;> rfl

namespace Log

theorem Level.ofJson_draft (level : Level) (how : Reading) :
    Level.ofJson how (.string level.name) = .ok level := by
  cases level <;> rfl

/-! ## Sources -/

/-- Is the number of a process one of 32 bits? -/
def Source.Fits : Source → Prop
  | .harness => True
  | .process _ pid _ => pid ≤ Numeral.maxU32

theorem Source.processOfJson_draft (name : String) {pid : Nat} (channel : Channel)
    (h : pid ≤ Numeral.maxU32) :
    processOfJson (.object [(some "name", .string name), (some "pid", .integer pid),
      (some "stream", .string channel.name)]) = .ok (.process name pid channel) := by
  have hpid : Json.u32 (.integer pid) = .ok pid := Json.unsigned_integer h
  have hchannel := Channel.ofJson_draft channel .kept
  have hsuits : List.Forall₂ Json.Suits processFields
      [("name", .string name), ("pid", .integer pid), ("stream", .string channel.name)] := by
    simp [processFields, Json.Suits, Json.judged, hpid, hchannel, Json.text, Json.textNamed,
      Except.map]
  have hrecord := Json.record_members .kept "struct variant LogSource::Process" (by decide) _ hsuits
  rw [List.map_cons, List.map_cons, List.map_cons, List.map_nil] at hrecord
  rw [processOfJson, hrecord]
  simp only [List.map_cons, List.map_nil, bind, Except.bind, hpid, hchannel]
  rfl

theorem Source.ofJson_draft {source : Source} (h : source.Fits) :
    Source.ofJson source.toJson.draft = .ok source := by
  cases source with
  | harness => rfl
  | process name pid channel =>
    have htag : Json.innerTag "internally tagged enum LogSource" "kind" ["harness", "process"]
        (Source.process name pid channel).toJson.draft =
          .ok (1, .object [(some "name", .string name), (some "pid", .integer pid),
            (some "stream", .string channel.name)]) := rfl
    rw [Source.ofJson, htag]
    exact processOfJson_draft name channel h

/-! ## Contexts -/

theorem contextOfJson_draft (context : List (String × String)) :
    contextOfJson (contextJson context).draft = .ok context := by
  change (Json.itemDrafts (context.map fun pair => .array [.string pair.1, .string pair.2])).mapM
    (Json.pair Json.text Json.text) = _
  induction context with
  | nil => rfl
  | cons pair rest ih =>
    rw [List.map_cons, Json.itemDrafts, List.mapM_cons, ih]
    rfl

theorem contextJson_readable (context : List (String × String)) :
    (contextJson context).Readable 126 := by
  refine ⟨by decide, ?_⟩
  induction context with
  | nil => trivial
  | cons pair rest ih => exact ⟨⟨by decide, trivial, trivial, trivial⟩, ih⟩

/-! ## Entries -/

/-- Can an entry be read back? Its time is of a year with four digits and no leap second, and its
numbers are of 64 and 32 bits. -/
structure Entry.Fits (e : Entry) : Prop where
  valid : e.timestamp.IsValid
  year : 0 ≤ e.timestamp.year ∧ e.timestamp.year ≤ 9999
  second : e.timestamp.second < 60
  elapsedMs : e.elapsedMs ≤ Numeral.maxU64
  source : e.source.Fits

namespace Entry

variable {e : Entry}

/-- The members of an entry but for its context. -/
def members (e : Entry) : List (String × Json.Draft) :=
  [("timestamp", .string e.timestamp.render), ("elapsed_ms", .integer e.elapsedMs),
    ("level", .string e.level.name), ("source", e.source.toJson.draft),
    ("message", .string e.message)]

theorem timestampOfJson_draft (h : e.Fits) :
    timestampOfJson (.string e.timestamp.render) = .ok e.timestamp := by
  have htime := Timestamp.read_render h.valid h.year h.second
  simp only [timestampOfJson, Json.textNamed, bind, Except.bind, htime]
  rfl

/-- The fields of an entry but for its context. -/
def plainFields : List Json.Field :=
  [⟨"timestamp", Json.judged timestampOfJson, none⟩, ⟨"elapsed_ms", Json.judged Json.u64, none⟩,
    ⟨"level", Json.judged (Level.ofJson .direct), none⟩, ⟨"source", Json.judged Source.ofJson, none⟩,
    ⟨"message", Json.judged Json.text, none⟩]

theorem fields_eq :
    fields = plainFields ++ [⟨"context", Json.judged contextOfJson, some (.array [])⟩] := rfl

theorem members_suit (h : e.Fits) : List.Forall₂ Json.Suits plainFields e.members := by
  have hsource := Source.ofJson_draft h.source
  have hlevel := Level.ofJson_draft e.level .direct
  have helapsed : Json.u64 (.integer e.elapsedMs) = .ok e.elapsedMs :=
    Json.unsigned_integer h.elapsedMs
  simp [plainFields, members, Json.Suits, Json.judged, timestampOfJson_draft h, hsource, hlevel,
    helapsed, Json.text, Json.textNamed, Except.map]

/-- The values of an entry are read from its object, without a context if that is empty. -/
theorem record_draft (h : e.Fits) :
    Json.record .direct "struct LogEntry" fields e.toJson.draft =
      .ok (e.members.map Prod.snd ++ [(contextJson e.context).draft]) := by
  cases hcontext : e.context with
  | nil =>
    have hdraft : e.toJson.draft = .object (e.members.map fun m => (some m.1, m.2)) := by
      rw [toJson, hcontext]
      rfl
    rw [hdraft]
    have hnames : (e.members.map Prod.fst).Nodup := by
      change ["timestamp", "elapsed_ms", "level", "source", "message"].Nodup
      decide
    refine Json.record_values .direct "struct LogEntry" (by decide) hnames (fun m hm => ?_) ?_
    · obtain ⟨field, hfield, hsuits⟩ := Json.exists_suits (members_suit h) m hm
      exact ⟨field, by simp [fields_eq, hfield], hsuits⟩
    · simp [fields, members, List.lookup_cons, contextJson, Json.draft, Json.itemDrafts]
  | cons pair rest =>
    have hdraft : e.toJson.draft = .object
        ((e.members ++ [("context", (contextJson e.context).draft)]).map
          fun m => (some m.1, m.2)) := by
      rw [toJson, hcontext]
      rfl
    have hsuits : List.Forall₂ Json.Suits fields
        (e.members ++ [("context", (contextJson e.context).draft)]) := by
      refine List.rel_append (members_suit h) (.cons ?_ .nil)
      simp [Json.Suits, Json.judged, contextOfJson_draft, Except.map]
    rw [hdraft, ← hcontext, Json.record_members .direct "struct LogEntry" (by decide) _ hsuits]
    simp

theorem ofJson_draft (h : e.Fits) : ofJson e.toJson.draft = .ok e := by
  have hsource := Source.ofJson_draft h.source
  have hlevel := Level.ofJson_draft e.level .direct
  have helapsed : Json.u64 (.integer e.elapsedMs) = .ok e.elapsedMs :=
    Json.unsigned_integer h.elapsedMs
  rw [ofJson, record_draft h]
  simp only [members, List.map_cons, List.map_nil, List.cons_append, List.nil_append, bind,
    Except.bind, timestampOfJson_draft h, hsource, hlevel, helapsed, contextOfJson_draft]
  rfl

theorem readable (h : e.Fits) : e.toJson.Readable Json.maxDepth := by
  have helapsed := h.elapsedMs
  have hsource : e.source.toJson.Readable 126 := by
    have hfits := h.source
    cases hkind : e.source with
    | harness => simp [Source.toJson, Json.Readable, Json.ReadableMembers]
    | process name pid channel =>
      rw [hkind, Source.Fits, Numeral.maxU32] at hfits
      simp only [Source.toJson, Json.Readable, Json.ReadableMembers, Json.Exact, true_and, and_true]
      omega
  have hcontext := contextJson_readable e.context
  have hnumber : Json.Exact e.elapsedMs := by
    rw [Numeral.maxU64] at helapsed
    constructor <;> omega
  unfold toJson
  split_ifs
  · simp [Json.Readable, Json.ReadableMembers, Json.maxDepth, hsource, hnumber]
  · simp [Json.Readable, Json.ReadableMembers, Json.maxDepth, hsource, hnumber, hcontext]

theorem ofLine_line (h : e.Fits) : ofLine e.line = .ok e :=
  Json.decode_compact (readable h) (ofJson_draft h)

theorem visible_line (e : Entry) : Visible e.line.toList :=
  Json.visible_compact e.toJson

end Entry
end Log
end DaemonDialogue
