import DaemonDialogue.Proofs.Log.File
import DaemonDialogue.Proofs.Stream.Capture

/-!
# A log that threads share

A thread that logs an event first writes its line to the file and then keeps its entry in memory.
In between other threads may do either, so the file and the memory can have different orders. Each
of them still has the events of every thread in the order of that thread, and what is in memory is
in the file.
-/

namespace DaemonDialogue

namespace Logger

open Log (Call Entry Level)

/-! ## Threads -/

/-- A thread that logs: the entry whose line is written but that is not kept yet, if there is one,
and the events that are still ahead. -/
structure Thread where
  open_ : Option Entry := none
  ahead : List Call := []
  deriving Inhabited

/-- A log and the threads that log to it. -/
structure Shared where
  logger : Logger
  threads : List Thread

namespace Thread

/-- What a thread does next: it keeps the entry that is open, or writes the line of the next event
at its moment. An event whose level is not kept does neither. -/
def step (t : Thread) (l : Logger) : Thread × Logger :=
  match t.open_, t.ahead with
  | some e, ahead => (⟨none, ahead⟩, l.keep e)
  | none, [] => (t, l)
  | none, c :: rest =>
    if l.keeps c.level then
      let l := { l with now := c.moment }
      let e := l.stamp c.level c.source c.message c.context
      (⟨some e, rest⟩, (l.print e).writeLine e)
    else (⟨none, rest⟩, l)

def Done (t : Thread) : Prop := t.open_ = none ∧ t.ahead = []

/-- A thread that nobody interrupts logs an event as a whole. -/
theorem step_step {l : Logger} {c : Call} (h : l.keeps c.level = true) (rest : List Call) :
    let next := step ⟨none, c :: rest⟩ l
    next.1.step next.2 = (⟨none, rest⟩, l.logAt c) := by
  have hkeeps : { l with now := c.moment }.keeps c.level = true := h
  simp only [step, h, if_true, logAt, log, hkeeps]

end Thread

namespace Shared

/-- Threads that have some events ahead, and a log. -/
def start (l : Logger) (programs : List (List Call)) : Shared :=
  ⟨l, programs.map fun calls => { ahead := calls }⟩

/-- The thread of a number; one that is not there has nothing to do. -/
def thread (s : Shared) (i : Nat) : Thread := s.threads.getD i {}

/-- Lets a thread do what it does next. -/
def step (s : Shared) (i : Nat) : Shared :=
  let next := (s.thread i).step s.logger
  ⟨next.2, s.threads.set i next.1⟩

def run (s : Shared) (turns : List Nat) : Shared := turns.foldl step s

def Done (s : Shared) : Prop := ∀ t ∈ s.threads, t.Done

theorem thread_step (s : Shared) (i j : Nat) :
    (s.step i).thread j = if j = i then ((s.thread i).step s.logger).1 else s.thread j := by
  change (s.threads.set i _).getD j {} = _
  rw [List.getD_eq_getElem?_getD, List.getElem?_set]
  by_cases hji : j = i
  · subst hji
    rw [if_pos rfl, if_pos rfl]
    split_ifs with hlength
    · rfl
    · -- A thread that is not there does nothing.
      rw [Shared.thread, List.getD_eq_getElem?_getD, List.getElem?_eq_none (not_lt.1 hlength)]
      rfl
  · rw [if_neg (Ne.symm hji), if_neg hji, Shared.thread, List.getD_eq_getElem?_getD]

theorem Done.thread {s : Shared} (h : s.Done) (i : Nat) : (s.thread i).Done := by
  unfold Shared.thread
  rw [List.getD_eq_getElem?_getD]
  cases hthread : s.threads[i]? with
  | none => exact ⟨rfl, rfl⟩
  | some t => exact h t (List.mem_of_getElem? hthread)

end Shared

/-! ## Entries and their threads -/

/-- An entry with the number of the thread that it is from. -/
abbrev Traced := Nat × Entry

def ofThread (i : Nat) (traced : List Traced) : List Entry :=
  (traced.filter fun e => e.1 == i).map (·.2)

variable {traced more : List Traced}

theorem ofThread_append (i : Nat) (traced more : List Traced) :
    ofThread i (traced ++ more) = ofThread i traced ++ ofThread i more := by
  simp [ofThread]

theorem ofThread_map (i number : Nat) (entries : List Entry) :
    ofThread i (entries.map (Prod.mk number)) = if i = number then entries else [] := by
  unfold ofThread
  by_cases h : i = number
  · simp [h, List.filter_map, Function.comp_def]
  · simp [h, Ne.symm h, List.filter_map, Function.comp_def]

theorem count_ofThread (i : Nat) (e : Entry) (traced : List Traced) :
    traced.count (i, e) = (ofThread i traced).count e := by
  unfold ofThread
  induction traced with
  | nil => rfl
  | cons first rest ih =>
    rw [List.count_cons, ih, List.filter_cons]
    by_cases hi : first.1 = i
    · subst hi
      simp [List.count_cons, Prod.ext_iff]
    · simp [hi, Prod.ext_iff]

/-- Lists with the same entries of every thread have the same entries. -/
theorem perm_of_ofThread (h : ∀ i, ofThread i traced = ofThread i more) : traced.Perm more := by
  rw [List.perm_iff_count]
  rintro ⟨i, e⟩
  rw [count_ofThread, count_ofThread, h]

theorem subperm_of_ofThread (h : ∀ i, ofThread i traced <+: ofThread i more) :
    traced.Subperm more := by
  rw [List.subperm_ext_iff]
  rintro ⟨i, e⟩ -
  rw [count_ofThread, count_ofThread]
  exact (h i).sublist.count_le e

/-- The entries of some threads one after the other, the first thread of a given number. -/
def inTurn (number : Nat) : List (List Entry) → List Traced
  | [] => []
  | entries :: rest => entries.map (Prod.mk number) ++ inTurn (number + 1) rest

theorem map_inTurn (number : Nat) (threads : List (List Entry)) :
    (inTurn number threads).map (·.2) = threads.flatten := by
  induction threads generalizing number with
  | nil => rfl
  | cons entries rest ih => simp [inTurn, ih, Function.comp_def]

theorem ofThread_inTurn (i number : Nat) (threads : List (List Entry)) :
    ofThread (number + i) (inTurn number threads) = threads.getD i [] := by
  induction threads generalizing number i with
  | nil => rfl
  | cons entries rest ih =>
    rw [inTurn, ofThread_append, ofThread_map]
    cases i with
    | zero =>
      have hrest : ∀ (threads : List (List Entry)) (above : Nat), number < above →
          ofThread number (inTurn above threads) = [] := by
        intro threads
        induction threads with
        | nil => exact fun _ _ => rfl
        | cons entries rest ih =>
          intro above habove
          rw [inTurn, ofThread_append, ofThread_map, if_neg (by omega), ih _ (by omega)]
          rfl
      simp [hrest rest (number + 1) (by omega)]
    | succ i =>
      rw [if_neg (by omega), List.nil_append, ← Nat.add_assoc, Nat.add_right_comm, ih]
      rfl

/-! ## What a step does -/

def keptOf (minLevel : Level) (calls : List Call) : List Entry :=
  (calls.filter fun c => minLevel.rank ≤ c.level.rank).map Call.entry

theorem print_eq (l : Logger) (e : Entry) :
    l.print e = { l with echoed := (l.print e).echoed } := by
  unfold print
  split_ifs <;> rfl

/-- What a thread adds to the file and to memory by becoming another. -/
structure Thread.Adds (t : Thread) (l : Logger) (next : Thread) (l' : Logger)
    (filed held : List Entry) : Prop where
  file : l'.file = l.file.map (· ++ filed.map Entry.line)
  entries : l'.entries = l.entries ++ held
  level : l'.minLevel = l.minLevel
  ahead : filed ++ keptOf l.minLevel next.ahead = keptOf l.minLevel t.ahead
  open_ : t.open_.toList ++ filed = held ++ next.open_.toList

/-- A thread writes one line, keeps one entry, or adds nothing. -/
theorem Thread.exists_adds (t : Thread) (l : Logger) :
    ∃ filed held, t.Adds l (t.step l).1 (t.step l).2 filed held := by
  have hsame : l.file = l.file.map (· ++ ([] : List Entry).map Entry.line) := by simp
  rcases t with ⟨_ | e, ahead⟩
  · cases ahead with
    | nil => exact ⟨[], [], hsame, by simp [step], rfl, rfl, rfl⟩
    | cons c rest =>
      rw [step]
      dsimp only
      split_ifs with hkept
      · have hrank : l.minLevel.rank ≤ c.level.rank := by simpa [keeps] using hkept
        refine ⟨[c.entry], [], ?_, ?_, ?_, by simp [keptOf, hrank], rfl⟩
        · rw [print_eq]
          simp [Logger.file, writeLine, Function.comp_def, stamp, Call.entry]
        · rw [print_eq]
          simp [Logger.entries, writeLine]
        · rw [print_eq]
          rfl
      · have hrank : ¬l.minLevel.rank ≤ c.level.rank := by simpa [keeps] using hkept
        exact ⟨[], [], hsame, by simp, rfl, by simp [keptOf, hrank], rfl⟩
  · exact ⟨[], [e], hsame, by simp [step, Logger.entries, keep], rfl, rfl, by simp [step]⟩

/-! ## What a run has done -/

/-- What the threads have done: which entries are in the file and which are in memory, each with
the thread that it is from. In the file a thread is further by the entry that is open. -/
structure Accounts (minLevel : Level) (programs : List (List Call)) (s : Shared)
    (filed held : List Traced) : Prop where
  file : s.logger.file = some (filed.map (·.2.line))
  entries : s.logger.entries = held.map (·.2)
  level : s.logger.minLevel = minLevel
  ahead : ∀ i, ofThread i filed ++ keptOf minLevel (s.thread i).ahead =
    keptOf minLevel (programs.getD i [])
  open_ : ∀ i, ofThread i filed = ofThread i held ++ (s.thread i).open_.toList

variable {minLevel : Level} {programs : List (List Call)} {s : Shared} {filed held : List Traced}

theorem accounts_start (testName : String) (minLevel : Level) (echo : Bool)
    (programs : List (List Call)) :
    Accounts minLevel programs (.start { testName, minLevel, echo, written := some #[] } programs)
      [] [] := by
  have hthread : ∀ i, (programs.map fun calls => ({ ahead := calls } : Thread)).getD i {} =
      { ahead := programs.getD i [] } := by
    intro i
    rw [List.getD_eq_getElem?_getD, List.getElem?_map, List.getD_eq_getElem?_getD]
    cases programs[i]? <;> rfl
  refine ⟨rfl, rfl, rfl, fun i => ?_, fun i => ?_⟩
  all_goals
    rw [Shared.thread, Shared.start, hthread]
    rfl

/-- Whatever a thread does next is accounted for. -/
theorem Accounts.step (h : Accounts minLevel programs s filed held) (i : Nat) :
    ∃ filed' held', Accounts minLevel programs (s.step i) filed' held' := by
  obtain ⟨newFiled, newHeld, hadds⟩ := (s.thread i).exists_adds s.logger
  refine ⟨filed ++ newFiled.map (Prod.mk i), held ++ newHeld.map (Prod.mk i),
    hadds.file.trans ?_, hadds.entries.trans ?_, hadds.level.trans h.level, fun j => ?_,
    fun j => ?_⟩
  · rw [h.file]
    simp [Function.comp_def]
  · rw [h.entries]
    simp [Function.comp_def]
  · rw [Shared.thread_step, ofThread_append, ofThread_map]
    split_ifs with hj
    · rw [hj, List.append_assoc, ← h.level, hadds.ahead, h.level, h.ahead]
    · rw [List.append_nil, h.ahead]
  · rw [Shared.thread_step, ofThread_append, ofThread_map, ofThread_append, ofThread_map]
    split_ifs with hj
    · rw [hj, h.open_, List.append_assoc, hadds.open_, List.append_assoc]
    · rw [List.append_nil, List.append_nil, h.open_]

theorem Accounts.run (h : Accounts minLevel programs s filed held) (turns : List Nat) :
    ∃ filed' held', Accounts minLevel programs (s.run turns) filed' held' := by
  induction turns generalizing s filed held with
  | nil => exact ⟨filed, held, h⟩
  | cons i rest ih =>
    obtain ⟨filed', held', hstep⟩ := h.step i
    exact ih hstep

theorem Accounts.prefixes (h : Accounts minLevel programs s filed held) (i : Nat) :
    ofThread i held <+: ofThread i filed ∧
      ofThread i filed <+: keptOf minLevel (programs.getD i []) := by
  constructor
  · rw [h.open_]
    exact List.prefix_append _ _
  · rw [← h.ahead]
    exact List.prefix_append _ _

/-- Threads that have logged everything have all that is to be kept in the file and in memory. -/
theorem Accounts.of_done (h : Accounts minLevel programs s filed held) (hdone : s.Done) (i : Nat) :
    ofThread i filed = keptOf minLevel (programs.getD i []) ∧
      ofThread i held = keptOf minLevel (programs.getD i []) := by
  obtain ⟨hopen, hahead⟩ := hdone.thread i
  have hfiled := h.ahead i
  have hheld := h.open_ i
  rw [hahead, keptOf, List.filter_nil, List.map_nil, List.append_nil] at hfiled
  rw [hopen, Option.toList_none, List.append_nil] at hheld
  exact ⟨hfiled, hheld.symm.trans hfiled⟩

theorem keptOf_flatten (minLevel : Level) (programs : List (List Call)) :
    keptOf minLevel programs.flatten = (programs.map (keptOf minLevel)).flatten := by
  unfold keptOf
  rw [List.filter_flatten, List.map_flatten, List.map_map]
  rfl

theorem filter_of_thread {p : Entry → Bool} (i : Nat)
    (h : ∀ j, j ≠ i → ∀ e ∈ ofThread j held, p e = false) :
    (held.map (·.2)).filter p = (ofThread i held).filter p := by
  unfold ofThread at h ⊢
  rw [List.filter_map, List.filter_map, List.filter_filter]
  congr 1
  refine List.filter_congr fun traced htraced => ?_
  by_cases hi : traced.1 = i
  · simp [hi]
  · have hp : p traced.2 = false :=
      h traced.1 hi traced.2 (List.mem_map.2 ⟨traced, List.mem_filter.2 ⟨htraced, by simp⟩, rfl⟩)
    simp [hp]

/-! ## Coming to an end -/

def Thread.work (t : Thread) : Nat := 2 * t.ahead.length + t.open_.toList.length

theorem Thread.work_step {t : Thread} (h : ¬t.Done) (l : Logger) : (t.step l).1.work < t.work := by
  rcases t with ⟨_ | e, ahead⟩
  · cases ahead with
    | nil => exact absurd ⟨rfl, rfl⟩ h
    | cons c rest =>
      rw [step]
      dsimp only
      split_ifs
      all_goals
        simp only [work, List.length_cons, Option.toList_some, Option.toList_none, List.length_nil]
        omega
  · simp [step, work]

theorem sum_work_set {threads : List Thread} {i : Nat} {t next : Thread}
    (ht : threads[i]? = some t) (h : next.work < t.work) :
    ((threads.set i next).map Thread.work).sum < (threads.map Thread.work).sum := by
  induction threads generalizing i with
  | nil => simp at ht
  | cons first rest ih =>
    cases i with
    | zero =>
      obtain rfl : first = t := by simpa using ht
      simpa using h
    | succ i =>
      have hrest := ih (i := i) (by simpa using ht)
      simpa using hrest

/-- However far the threads have come, they can go on until all of them are done. -/
theorem Shared.exists_done (s : Shared) : ∃ turns, (s.run turns).Done := by
  induction hwork : (s.threads.map Thread.work).sum using Nat.strong_induction_on
    generalizing s with
  | h work ih =>
    by_cases hdone : s.Done
    · exact ⟨[], hdone⟩
    · obtain ⟨t, ht, hopen⟩ : ∃ t ∈ s.threads, ¬t.Done := by simpa [Done] using hdone
      obtain ⟨i, hi⟩ := List.mem_iff_getElem?.1 ht
      have hthread : s.thread i = t := by
        rw [Shared.thread, List.getD_eq_getElem?_getD, hi, Option.getD_some]
      have hless : ((s.step i).threads.map Thread.work).sum < work := by
        rw [← hwork]
        refine sum_work_set hi ?_
        rw [hthread]
        exact Thread.work_step hopen _
      obtain ⟨turns, hturns⟩ := ih _ hless (s.step i) rfl
      exact ⟨i :: turns, hturns⟩

end Logger

/-! ## The events of a capture -/

namespace Capture

open Log (Call Level Moment Source)

/-- What is logged of a line of a stream. -/
def lineMessage (source : CaptureSource) (raw : List UInt8) : Source × String :=
  (.process source.name source.pid source.channel, lineText raw)

/-- What a capture logs, in its order: the lines of a stream, why it could not be read further,
and what is left behind the lines. -/
def messages (source : CaptureSource) (reads : List ReadResult) : List (Source × String) :=
  let (lines, rest) := Line.split (contents reads)
  lines.map (lineMessage source) ++
    (failure? reads).toList.map (fun message => (.harness, stopped source message)) ++
    (Cut.pieces Newline.lineFeed rest).map (lineMessage source)

def calls (source : CaptureSource) (moments : Nat → Moment) (reads : List ReadResult) : List Call :=
  (messages source reads).zipIdx.map fun m => ⟨moments m.2, .debug, m.1.1, m.1.2, []⟩

theorem logAll_map (messages : List (Source × String)) (l : Logger) :
    l.logAll (messages.map fun m => ⟨l.now, .debug, m.1, m.2, []⟩) =
      messages.foldl (fun l m => l.log .debug m.1 m.2) l := by
  induction messages generalizing l with
  | nil => rfl
  | cons m rest ih =>
    have hnow : (l.log .debug m.1 m.2).now = l.now := by
      by_cases hkept : l.keeps .debug = true
      · exact (Logger.adds_log hkept m.1 m.2 []).now
      · rw [Logger.log, if_neg hkept]
    have hrest := ih (l.log .debug m.1 m.2)
    rw [hnow] at hrest
    exact hrest

theorem messages_append (source : CaptureSource) {reads : List ReadResult}
    {lines rest : List UInt8} (hreads : contents reads = lines ++ rest)
    (hlines : Cut.Whole Newline.lineFeed lines) (hrest : Newline.lineFeed ∉ rest) :
    messages source reads =
      (Cut.pieces Newline.lineFeed lines).map (lineMessage source) ++
        (failure? reads).toList.map (fun message => (.harness, stopped source message)) ++
        (Cut.pieces Newline.lineFeed rest).map (lineMessage source) := by
  rw [messages, hreads, Line.split_append hlines hrest]

theorem foldl_mirror (source : CaptureSource) (lines : List (List UInt8)) (l : Logger) :
    lines.foldl (mirror source) l =
      (lines.map (lineMessage source)).foldl (fun l m => l.log .debug m.1 m.2) l := by
  rw [List.foldl_map]
  rfl

/-- A capture that is alone with its log logs its events. -/
theorem run_logger (source : CaptureSource) (l : Logger) (reads : List ReadResult) :
    (run source { logger := l } reads).logger = l.logAll (calls source (fun _ => l.now) reads) := by
  have hcalls : calls source (fun _ => l.now) reads =
      (messages source reads).map fun m => ⟨l.now, .debug, m.1, m.2, []⟩ := by
    conv_rhs => rw [← List.zipIdx_map_fst 0 (messages source reads), List.map_map]
    rfl
  obtain ⟨lines, rest, hreads, hlines, hrest⟩ := Line.exists_split (contents reads)
  rw [run_eq source { logger := l } reads (by simp), hcalls, logAll_map,
    messages_append source hreads hlines hrest, List.foldl_append, List.foldl_append,
    ← foldl_mirror, ← foldl_mirror]
  dsimp only
  rw [List.nil_append, hreads, Line.split_append hlines hrest, record]
  by_cases hempty : rest = []
  · subst hempty
    cases failure? reads <;> rfl
  · rw [Cut.pieces_of_notMem hrest hempty, if_neg (by simpa using hempty)]
    cases failure? reads <;> rfl

theorem output_calls (source : CaptureSource) (moments : Nat → Moment) (reads : List ReadResult) :
    (((calls source moments reads).map Call.entry).filter
        (Logger.isOutputOf source.name source.channel)).map (·.message) =
      (Cut.pieces Newline.lineFeed (contents reads)).map lineText := by
  -- Whether an entry is output depends on its source alone, so the moments do not matter.
  let isOutput (m : Source × String) : Bool :=
    Logger.isOutputOf source.name source.channel ⟨.epoch, 0, .debug, m.1, m.2, []⟩
  have hmoments : (((calls source moments reads).map Call.entry).filter
      (Logger.isOutputOf source.name source.channel)).map (·.message) =
      ((messages source reads).filter isOutput).map (·.2) := by
    conv_rhs => rw [← List.zipIdx_map_fst 0 (messages source reads)]
    rw [calls, List.map_map, List.filter_map, List.map_map, List.filter_map, List.map_map]
    rfl
  have hpieces : ∀ pieces : List (List UInt8),
      (pieces.map (lineMessage source)).filter isOutput = pieces.map (lineMessage source) := by
    intro pieces
    rw [List.filter_eq_self]
    simp [isOutput, Logger.isOutputOf, lineMessage]
  obtain ⟨lines, rest, hreads, hlines, hrest⟩ := Line.exists_split (contents reads)
  rw [hmoments, messages_append source hreads hlines hrest, List.filter_append, List.filter_append,
    hpieces, hpieces, hreads, Cut.pieces_append rest hlines]
  cases failure? reads <;> simp [isOutput, Logger.isOutputOf, lineMessage, Function.comp_def]

end Capture

/-! ## Logging at once -/

namespace Logger

open Log (Call Entry Level Moment)

/-- Whatever turns some threads take with a log, every entry in memory has its line in the file
already, and in both the entries of a thread are in the order of the thread. Once all threads are
done, both have just the entries of a level that is kept, those of a capture in the order of its
stream, and threads can always go on until they are done. -/
theorem run_complete (testName : String) (minLevel : Level) (echo : Bool)
    (programs : List (List Call)) (turns : List Nat) :
    let s := (Shared.start { testName, minLevel, echo, written := some #[] } programs).run turns
    let kept := fun i => keptOf minLevel (programs.getD i [])
    (∃ filed held : List Traced,
      s.logger.file = some (filed.map (·.2.line)) ∧ s.logger.entries = held.map (·.2) ∧
      held.Subperm filed ∧
      (∀ i, ofThread i held <+: ofThread i filed ∧ ofThread i filed <+: kept i) ∧
      (s.Done → held.Perm filed ∧ ∀ i, ofThread i filed = kept i ∧ ofThread i held = kept i)) ∧
    (s.Done → s.logger.entries.Perm (keptOf minLevel programs.flatten)) ∧
    (s.Done → minLevel.rank ≤ Level.debug.rank →
      ∀ (i : Nat) (source : CaptureSource) (moments : Nat → Moment) (reads : List ReadResult),
        programs[i]? = some (Capture.calls source moments reads) →
        (∀ j, j ≠ i → ∀ c ∈ programs.getD j [],
          isOutputOf source.name source.channel c.entry = false) →
        s.logger.processOutput source.name source.channel =
          (Cut.pieces Newline.lineFeed (Capture.contents reads)).map Capture.lineText) ∧
    ∃ more, (s.run more).Done := by
  intro s kept
  obtain ⟨filed, held, haccounts⟩ :=
    (accounts_start testName minLevel echo programs).run turns
  have hall : s.Done → ∀ i, ofThread i filed = kept i ∧ ofThread i held = kept i :=
    fun hdone => haccounts.of_done hdone
  refine ⟨⟨filed, held, haccounts.file, haccounts.entries,
    subperm_of_ofThread fun i => (haccounts.prefixes i).1, haccounts.prefixes,
    fun hdone => ⟨perm_of_ofThread fun i => ((hall hdone i).2).trans (hall hdone i).1.symm,
      hall hdone⟩⟩, fun hdone => ?_, fun hdone hdebug i source moments reads hcalls hothers => ?_,
    s.exists_done⟩
  · have hinTurn : held.Perm (inTurn 0 (programs.map (keptOf minLevel))) := by
      refine perm_of_ofThread fun i => ?_
      have hthread := ofThread_inTurn i 0 (programs.map (keptOf minLevel))
      rw [Nat.zero_add] at hthread
      rw [(hall hdone i).2, hthread]
      simp only [kept, List.getD_eq_getElem?_getD, List.getElem?_map]
      cases programs[i]? <;> rfl
    rw [keptOf_flatten, ← map_inTurn 0, haccounts.entries]
    exact hinTurn.map _
  · have hkept : kept i = (Capture.calls source moments reads).map Call.entry := by
      have hlevel : ∀ c ∈ Capture.calls source moments reads,
          decide (minLevel.rank ≤ c.level.rank) = true := by
        intro c hc
        obtain ⟨m, -, rfl⟩ := List.mem_map.1 hc
        exact decide_eq_true hdebug
      change keptOf minLevel (programs.getD i []) = _
      rw [List.getD_eq_getElem?_getD, hcalls, Option.getD_some, keptOf,
        List.filter_eq_self.2 hlevel]
    have hfilter : (held.map (·.2)).filter (isOutputOf source.name source.channel) =
        (ofThread i held).filter (isOutputOf source.name source.channel) := by
      refine filter_of_thread i fun j hj e he => ?_
      rw [(hall hdone j).2] at he
      obtain ⟨c, hc, rfl⟩ := List.mem_map.1 he
      exact hothers j hj c (List.mem_filter.1 hc).1
    rw [processOutput, haccounts.entries, hfilter, (hall hdone i).2, hkept]
    exact Capture.output_calls source moments reads

/-- The first thread writes its line first, but the second one is the first to keep its entry. -/
example :
    let s := (Shared.start { testName := "t", written := some #[] }
      [[⟨{}, .info, .harness, "a", []⟩], [⟨{}, .info, .harness, "b", []⟩]]).run [0, 1, 1, 0]
    s.logger.entries.map (·.message) = ["b", "a"] := by decide

end Logger
end DaemonDialogue
