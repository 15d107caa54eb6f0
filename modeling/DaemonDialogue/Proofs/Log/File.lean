import DaemonDialogue.Log.Logger
import DaemonDialogue.Proofs.Log.Record
import DaemonDialogue.Proofs.Stream.Line
import Mathlib.Tactic

/-!
# The entries and the file of a log

An event adds one entry at the end, with the moment at which it happens, if its level is kept.
Neither the moment nor the level that is kept changes with it.

The file has a line for every entry in memory, in the same order. No entry has the end of a line
in it, so that the lines of the file are those that were written, and each stands for its entry.
-/

namespace DaemonDialogue.Logger

open Log (Level Source Entry)

/-- Has a logger become another by further entries, at the same moment and level? -/
structure Adds (l : Logger) (added : List Entry) (next : Logger) : Prop where
  entries : next.entries = l.entries ++ added
  now : next.now = l.now
  minLevel : next.minLevel = l.minLevel

variable {l next last : Logger} {added more : List Entry}

theorem Adds.refl (l : Logger) : l.Adds [] l := ⟨by simp, rfl, rfl⟩

theorem Adds.trans (h : l.Adds added next) (hnext : next.Adds more last) :
    l.Adds (added ++ more) last where
  entries := by rw [hnext.entries, h.entries, List.append_assoc]
  now := hnext.now.trans h.now
  minLevel := hnext.minLevel.trans h.minLevel

theorem Adds.stamp (h : l.Adds added next) (level : Level) (source : Source) (message : String)
    (context : List (String × String)) :
    next.stamp level source message context = l.stamp level source message context := by
  simp only [Logger.stamp, h.now]

theorem Adds.keeps (h : l.Adds added next) (level : Level) : next.keeps level = l.keeps level := by
  simp only [Logger.keeps, h.minLevel]

theorem adds_log {level : Level} (h : l.keeps level = true) (source : Source) (message : String)
    (context : List (String × String)) :
    l.Adds [l.stamp level source message context] (l.log level source message context) := by
  rw [log, if_pos h]
  unfold print
  dsimp only
  split_ifs <;> exact ⟨by simp [entries, keep, writeLine], rfl, rfl⟩

end DaemonDialogue.Logger

namespace DaemonDialogue

/-- An event to log, and the moment at which it happens. -/
structure Log.Call where
  moment : Log.Moment
  level : Log.Level
  source : Log.Source
  message : String
  context : List (String × String)

def Log.Call.entry (c : Log.Call) : Log.Entry :=
  ⟨c.moment.timestamp, c.moment.elapsedMs, c.level, c.source, c.message, c.context⟩

namespace Logger

open Log (Call Entry)

/-- Logs an event at its moment. -/
def logAt (l : Logger) (c : Call) : Logger :=
  { l with now := c.moment }.log c.level c.source c.message c.context

def logAll (l : Logger) (calls : List Call) : Logger :=
  calls.foldl logAt l

/-- The bytes of the file, if there is one: every line with a line feed behind it. -/
def fileBytes? (l : Logger) : Option (List UInt8) :=
  l.file.map fun lines => lines.flatMap fun line => Utf8.encode line ++ [Newline.lineFeed]

def Mirrors (l : Logger) : Prop := l.file = some (l.entries.map Entry.line)

variable {l : Logger}

/-! ## One event -/

/-- An event adds its entry if its level is kept, and nothing otherwise. -/
theorem adds_logAt (l : Logger) (c : Call) :
    { l with now := c.moment }.Adds (if l.keeps c.level then [c.entry] else []) (l.logAt c) := by
  have hkeeps : { l with now := c.moment }.keeps c.level = l.keeps c.level := rfl
  split_ifs with h
  · exact adds_log (hkeeps.trans h) c.source c.message c.context
  · rw [logAt, log, if_neg (by rwa [hkeeps])]
    exact .refl _

theorem keeps_logAt (l : Logger) (c : Call) (level : Log.Level) :
    (l.logAt c).keeps level = l.keeps level :=
  (adds_logAt l c).keeps level

theorem entries_logAt (l : Logger) (c : Call) :
    (l.logAt c).entries = l.entries ++ if l.keeps c.level then [c.entry] else [] :=
  (adds_logAt l c).entries

theorem Mirrors.logAt (h : l.Mirrors) (c : Call) : (l.logAt c).Mirrors := by
  unfold Mirrors
  rw [entries_logAt]
  cases hwritten : l.written with
  | none => simp [Mirrors, file, hwritten] at h
  | some lines =>
    have hlines : lines.toList = l.entries.map Entry.line := by
      simpa [Mirrors, file, hwritten] using h
    have hkeeps : { l with now := c.moment }.keeps c.level = l.keeps c.level := rfl
    rw [Logger.logAt, log, hkeeps]
    split_ifs
    · unfold print
      dsimp only
      split_ifs <;> simp [file, keep, writeLine, hwritten, hlines, stamp, Call.entry]
    · simp [file, hwritten, hlines]

/-! ## Many events -/

theorem Mirrors.logAll (h : l.Mirrors) (calls : List Call) : (l.logAll calls).Mirrors := by
  induction calls generalizing l with
  | nil => exact h
  | cons c rest ih => exact ih (h.logAt c)

theorem entries_logAll (l : Logger) (calls : List Call) :
    (l.logAll calls).entries =
      l.entries ++ (calls.filter fun c => l.keeps c.level).map Call.entry := by
  induction calls generalizing l with
  | nil => simp [logAll]
  | cons c rest ih =>
    have hrest := ih (l.logAt c)
    simp only [keeps_logAt, entries_logAt] at hrest
    rw [logAll, List.foldl_cons]
    rw [logAll] at hrest
    rw [hrest, List.filter_cons]
    split_ifs <;> simp

theorem Mirrors.lines (h : l.Mirrors) (hfits : ∀ e ∈ l.entries, e.Fits) :
    ∃ bytes, l.fileBytes? = some bytes ∧
      List.Forall₂ (fun piece e => ∃ line, Line.text piece = .ok line ∧ Entry.ofLine line = .ok e)
        (Line.all bytes) l.entries := by
  refine ⟨_, by rw [fileBytes?, h, Option.map_some], ?_⟩
  rw [Line.all_texts fun line hline => ?_]
  · rw [List.map_map, List.forall₂_map_left_iff, List.forall₂_same]
    exact fun e he => ⟨e.line, Line.text_line e.visible_line, Entry.ofLine_line (hfits e he)⟩
  · obtain ⟨e, -, rfl⟩ := List.mem_map.1 hline
    exact e.visible_line

/-- The file of a log says what the log says. Every entry is written on one line, without its
context if that is empty, and is read back from there. So whatever was logged, at whatever level
entries are kept, the file has just one line for every entry, and each line is read back as the
entry in its place. -/
theorem file_reads_back :
    (∀ e : Entry, '\n' ∉ e.line.toList) ∧
    (∀ e : Entry, ∃ members, e.toJson = .object members ∧
      ("context" ∈ members.map Prod.fst ↔ e.context ≠ [])) ∧
    (∀ e : Entry, e.Fits → Entry.ofLine e.line = .ok e) ∧
    ∀ (testName : String) (minLevel : Log.Level) (echo : Bool) (calls : List Call),
      (∀ c ∈ calls, c.entry.Fits) →
      let l := ({ testName, minLevel, echo, written := some #[] } : Logger).logAll calls
      l.entries = (calls.filter fun c => minLevel.rank ≤ c.level.rank).map Call.entry ∧
      ∃ bytes, l.fileBytes? = some bytes ∧
        List.Forall₂
          (fun piece e => ∃ line, Line.text piece = .ok line ∧ Entry.ofLine line = .ok e)
          (Line.all bytes) l.entries := by
  refine ⟨fun e hmem => absurd (e.visible_line _ hmem) (by decide), fun e => ⟨_, rfl, ?_⟩,
    fun e h => Entry.ofLine_line h, fun testName minLevel echo calls hcalls => ?_⟩
  · cases e.context <;> simp
  · have hstart : Mirrors { testName, minLevel, echo, written := some #[] } := rfl
    have hentries := entries_logAll { testName, minLevel, echo, written := some #[] } calls
    refine ⟨hentries, (hstart.logAll calls).lines fun e he => ?_⟩
    rw [hentries] at he
    obtain ⟨c, hc, rfl⟩ := List.mem_map.1 he
    exact hcalls c (List.mem_filter.1 hc).1

/-- A line of a process and a warning with a context, both with ends of lines in their texts, and
an event of a level that is not kept. -/
theorem file_reads_back_ends_of_lines :
    let l := ({ testName := "t", written := some #[] } : Logger).logAll
      [⟨⟨⟨0, 2, 29, 23, 59, 59, 999999999⟩, Numeral.maxU64⟩, .debug,
          .process "a\nb" Numeral.maxU32 .stderr, "\"\r\n", []⟩,
        ⟨⟨.epoch, 0⟩, .trace, .harness, "c", []⟩,
        ⟨⟨⟨9999, 12, 31, 0, 0, 0, 120000⟩, 1⟩, .warn, .harness, "", [("", "\n"), ("", "d")]⟩]
    l.entries.length = 2 ∧ ∃ bytes, l.fileBytes? = some bytes ∧ (Line.all bytes).length = 2 := by
  intro l
  obtain ⟨hentries, bytes, hbytes, hlines⟩ := file_reads_back.2.2.2 "t" .debug false
    [⟨⟨⟨0, 2, 29, 23, 59, 59, 999999999⟩, Numeral.maxU64⟩, .debug,
        .process "a\nb" Numeral.maxU32 .stderr, "\"\r\n", []⟩,
      ⟨⟨.epoch, 0⟩, .trace, .harness, "c", []⟩,
      ⟨⟨⟨9999, 12, 31, 0, 0, 0, 120000⟩, 1⟩, .warn, .harness, "", [("", "\n"), ("", "d")]⟩] (by
    simp only [List.forall_mem_cons, List.not_mem_nil, false_imp_iff, implies_true, and_true]
    refine ⟨⟨by decide, by decide, by decide, le_rfl, le_rfl⟩,
      ⟨by decide, by decide, by decide, by decide, trivial⟩,
      ⟨by decide, by decide, by decide, by decide, trivial⟩⟩)
  have hlength : l.entries.length = 2 := by
    rw [hentries]
    rfl
  exact ⟨hlength, bytes, hbytes, hlines.length_eq.trans hlength⟩

end Logger
end DaemonDialogue
