import DaemonDialogue.Log.Report
import DaemonDialogue.Proofs.Log.File
import Mathlib.Data.List.Sort
import Mathlib.Tactic

/-!
# What a failure report shows

A report has the errors in the order in which they were logged, and behind them one section for
each process that wrote to its standard error. The sections stand in the order in which the
processes came up, and each has the last lines of its own process only.
-/

namespace DaemonDialogue.Log

/-- Where a process comes up in a log: the place of its first entry, on either channel. -/
def firstEntry (p : ProcessId) (entries : List Entry) : Nat :=
  entries.findIdx fun e => e.process? == some p

/-- Did a process write to its standard error? -/
def Complained (p : ProcessId) (entries : List Entry) : Prop :=
  ∃ e ∈ entries, e.source = .process p.1 p.2 .stderr

/-- A process in a report, and the lines that are shown of it. -/
structure Section where
  process : ProcessId
  shown : List String

/-- A section as it stands in a report: the number of lines in the heading, and then the lines. -/
def Section.text (s : Section) : List String :=
  s!"--- {s.process.1}:{s.process.2} stderr (last {s.shown.length} lines)" ::
    s.shown.map ("    " ++ ·)

/-- What the sections of a report on some entries are: each process that wrote to its standard error
has just one, they stand in the order of the first entries, and each has the last lines that its
process, and no other, wrote to its standard error. -/
structure Sections (entries : List Entry) (sections : List Section) : Prop where
  nodup : (sections.map Section.process).Nodup
  mem_iff : ∀ p, p ∈ sections.map Section.process ↔ Complained p entries
  inOrder : sections.Pairwise fun s t =>
    firstEntry s.process entries < firstEntry t.process entries
  last : ∀ s ∈ sections, s.shown <:+ stderrLines s.process entries
  length : ∀ s ∈ sections,
    s.shown.length = min reportTail (stderrLines s.process entries).length
  own : ∀ s ∈ sections, ∀ line ∈ s.shown,
    ∃ e ∈ entries, e.source = .process s.process.1 s.process.2 .stderr ∧ e.message = line

/-- A report with given errors and sections. -/
def reportText (testName : String) (errors : List Entry) (sections : List Section) : String :=
  "\n".intercalate ([rule, "Failure report: " ++ testName, rule] ++
    errors.map (fun e => "error: " ++ e.message) ++ sections.flatMap Section.text ++ [rule])

variable {entries : List Entry} {p q : ProcessId}

/-! ## Processes in their order -/

theorem processes_concat (entries : List Entry) (e : Entry) :
    processes (entries ++ [e]) =
      match e.process? with
      | none => processes entries
      | some p =>
        if p ∈ processes entries then processes entries else processes entries ++ [p] := by
  unfold processes
  rw [List.filterMap_append, List.foldl_append]
  cases he : e.process? <;> simp [he]

theorem mem_processes : p ∈ processes entries ↔ ∃ e ∈ entries, e.process? = some p := by
  induction entries using List.reverseRecOn with
  | nil => simp [processes]
  | append_singleton entries e ih =>
    rw [processes_concat]
    cases he : e.process? with
    | none => simp [ih, he]
    | some q =>
      by_cases hq : q ∈ processes entries
      · have hold : q = p → ∃ e ∈ entries, e.process? = some p := by
          rintro rfl
          exact ih.1 hq
        simpa [ih, he, hq, or_and_right, exists_or] using hold
      · simp [ih, he, hq, or_and_right, exists_or, eq_comm]

theorem firstEntry_concat (hp : p ∈ processes entries) (e : Entry) :
    firstEntry p (entries ++ [e]) = firstEntry p entries := by
  have hlength : firstEntry p entries < entries.length := by
    obtain ⟨first, hfirst, hprocess⟩ := mem_processes.1 hp
    exact List.findIdx_lt_length_of_exists ⟨first, hfirst, by simp [hprocess]⟩
  unfold firstEntry at hlength ⊢
  rw [List.findIdx_append, if_pos hlength]

/-- A process that comes up with the last entry comes up behind all others. -/
theorem firstEntry_lt_of_new (hp : p ∈ processes entries) (hq : q ∉ processes entries) (e : Entry) :
    firstEntry p entries < firstEntry q (entries ++ [e]) := by
  have hlength : firstEntry p entries < entries.length := by
    obtain ⟨first, hfirst, hprocess⟩ := mem_processes.1 hp
    exact List.findIdx_lt_length_of_exists ⟨first, hfirst, by simp [hprocess]⟩
  have hnone : firstEntry q entries = entries.length := by
    apply List.findIdx_eq_length.2
    intro first hfirst
    by_contra hprocess
    exact hq (mem_processes.2 ⟨first, hfirst, by simpa using hprocess⟩)
  unfold firstEntry at hlength hnone ⊢
  rw [List.findIdx_append, hnone, if_neg (lt_irrefl _)]
  omega

theorem processes_inOrder (entries : List Entry) :
    (processes entries).Pairwise fun p q => firstEntry p entries < firstEntry q entries := by
  induction entries using List.reverseRecOn with
  | nil => simp [processes]
  | append_singleton entries e ih =>
    have hold : (processes entries).Pairwise fun p q =>
        firstEntry p (entries ++ [e]) < firstEntry q (entries ++ [e]) := by
      apply ih.imp_of_mem
      intro p q hp hq hlt
      rwa [firstEntry_concat hp, firstEntry_concat hq]
    rw [processes_concat]
    cases he : e.process? with
    | none => exact hold
    | some q =>
      dsimp only
      split_ifs with hq
      · exact hold
      · refine List.pairwise_append.2 ⟨hold, by simp, ?_⟩
        intro p hp other hother
        obtain rfl := List.mem_singleton.1 hother
        rw [firstEntry_concat hp]
        exact firstEntry_lt_of_new hp hq e

/-! ## Sections -/

theorem mem_stderrLines {line : String} : line ∈ stderrLines p entries ↔
    ∃ e ∈ entries, e.source = .process p.1 p.2 .stderr ∧ e.message = line := by
  simp [stderrLines, and_assoc]

theorem complained_iff : Complained p entries ↔ stderrLines p entries ≠ [] := by
  simp [Complained, stderrLines, List.filter_eq_nil_iff]

def sectionOf (entries : List Entry) (p : ProcessId) : Section where
  process := p
  shown := (stderrLines p entries).drop ((stderrLines p entries).length - reportTail)

def sectionsOf (entries : List Entry) : List Section :=
  ((processes entries).filter fun p => !(stderrLines p entries).isEmpty).map (sectionOf entries)

theorem section_eq (p : ProcessId) (entries : List Entry) :
    section_ p (stderrLines p entries) =
      if (stderrLines p entries).isEmpty then [] else (sectionOf entries p).text := by
  simp only [section_, Section.text, sectionOf]

theorem reportLines_eq (testName : String) (entries : List Entry) :
    "\n".intercalate (reportLines testName entries) =
      reportText testName (entries.filter fun e => e.level == .error) (sectionsOf entries) := by
  have hsections : ((processes entries).flatMap fun p => section_ p (stderrLines p entries)) =
      (sectionsOf entries).flatMap Section.text := by
    unfold sectionsOf
    induction processes entries with
    | nil => rfl
    | cons p rest ih =>
      rw [List.flatMap_cons, ih, section_eq]
      by_cases hempty : (stderrLines p entries).isEmpty <;> simp [hempty]
  unfold reportLines reportText
  dsimp only
  rw [hsections]

theorem sectionsOf_sections (entries : List Entry) : Sections entries (sectionsOf entries) := by
  have hids : (sectionsOf entries).map Section.process =
      (processes entries).filter fun p => !(stderrLines p entries).isEmpty := by
    unfold sectionsOf
    rw [List.map_map]
    exact List.map_id _
  have horder : ((processes entries).filter fun p => !(stderrLines p entries).isEmpty).Pairwise
      fun p q => firstEntry p entries < firstEntry q entries :=
    (processes_inOrder entries).filter _
  have hlast : ∀ s ∈ sectionsOf entries, s.shown <:+ stderrLines s.process entries := by
    intro s hs
    obtain ⟨p, -, rfl⟩ := List.mem_map.1 hs
    exact List.drop_suffix _ _
  constructor
  · rw [hids]
    exact horder.imp fun hlt heq => absurd hlt (by simp [heq])
  · intro p
    rw [hids, complained_iff]
    simp only [List.mem_filter, mem_processes]
    constructor
    · rintro ⟨-, hsome⟩
      simpa using hsome
    · intro hsome
      obtain ⟨e, he, hsource⟩ := complained_iff.2 hsome
      exact ⟨⟨e, he, by simp [Entry.process?, hsource]⟩, by simpa using hsome⟩
  · rwa [← hids, List.pairwise_map] at horder
  · exact hlast
  · intro s hs
    obtain ⟨p, -, rfl⟩ := List.mem_map.1 hs
    simp only [sectionOf, List.length_drop]
    omega
  · intro s hs line hline
    exact mem_stderrLines.1 ((hlast s hs).subset hline)

/-- There is one way only to divide a report into sections. -/
theorem Sections.unique {sections others : List Section} (h : Sections entries sections)
    (hothers : Sections entries others) : sections = others := by
  have hprocesses : sections.map Section.process = others.map Section.process := by
    have hperm : (sections.map Section.process).Perm (others.map Section.process) := by
      rw [List.perm_ext_iff_of_nodup h.nodup hothers.nodup]
      intro p
      rw [h.mem_iff, hothers.mem_iff]
    have hordered : ∀ {list : List Section}, Sections entries list →
        (list.map Section.process).Pairwise fun p q =>
          firstEntry p entries < firstEntry q entries :=
      fun hlist => List.pairwise_map.2 hlist.inOrder
    refine List.Perm.eq_of_pairwise ?_ (hordered h) (hordered hothers) hperm
    intro p q _ _ hlt hgt
    exact absurd hlt hgt.asymm
  have hform : ∀ {list : List Section}, Sections entries list →
      list = (list.map Section.process).map (sectionOf entries) := by
    intro list hlist
    rw [List.map_map]
    refine (List.map_id list).symm.trans (List.map_congr_left fun s hs => ?_)
    have hlength := hlist.length s hs
    have hshown : s.shown = (sectionOf entries s.process).shown := by
      rw [List.suffix_iff_eq_drop.1 (hlist.last s hs)]
      unfold sectionOf
      congr 1
      omega
    exact congrArg (Section.mk s.process) hshown
  rw [hform h, hform hothers, hprocesses]

end DaemonDialogue.Log

namespace DaemonDialogue.Logger

open Log (Call Entry Level ProcessId Sections)

theorem failureReport_eq (l : Logger) :
    l.failureReport =
      if ∃ e ∈ l.entries, e.level = .error then
        some (Log.reportText l.testName (l.entries.filter fun e => e.level == .error)
          (Log.sectionsOf l.entries))
      else none := by
  have herrors : l.hasErrors = true ↔ ∃ e ∈ l.entries, e.level = .error := by
    simp [hasErrors, errorCount, count, List.countP_pos_iff]
  unfold failureReport
  rw [Log.reportLines_eq]
  by_cases h : l.hasErrors = true
  · rw [if_pos h, if_pos (herrors.1 h)]
  · rw [if_neg h, if_neg (mt herrors.2 h)]

theorem testName_logAll (l : Logger) (calls : List Call) :
    (l.logAll calls).testName = l.testName := by
  induction calls generalizing l with
  | nil => rfl
  | cons c rest ih =>
    have hlog : (l.logAt c).testName = l.testName := by
      unfold logAt log print writeLine keep
      dsimp only
      split_ifs <;> rfl
    exact (ih (l.logAt c)).trans hlog

end DaemonDialogue.Logger
