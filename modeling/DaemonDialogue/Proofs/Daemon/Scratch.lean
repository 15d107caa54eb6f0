import DaemonDialogue.Daemon.Launch
import DaemonDialogue.Proofs.Daemon.Handle
import DaemonDialogue.Proofs.File.Directory

/-!
# Data directories of daemons

In a world in which nobody else makes or removes the directories of a test, a launch makes one data
directory at most, and waiting for a daemon changes none. A launch that fails takes its directory
back, and a handle that is given up takes it along, but not before its process has ended.
-/

namespace DaemonDialogue

open Daemon (World)

/-! ## Worlds -/

namespace Daemon.World

variable {σ : Type} (w : World σ)

def hasDirectory (path : String) (s : σ) : Bool := (w.files s).isDirectory path

/-- The directory from which relative paths start. -/
def home (s : σ) : File.Place := (w.files s).workingDir

/-- Does a path lead to another or to below it, or through it? -/
def Through (path above : String) (s : σ) : Prop :=
  File.Pathname.Through path (File.Pathname.place above (w.home s)) (w.home s)

variable (ours : String → Prop) (ended : Nat → σ → Prop)

/-- Has the world gone on without another working directory, and without an ended process coming
back? -/
structure Passes (s next : σ) : Prop where
  home : w.home next = w.home s
  rooted : (w.files s).Rooted → (w.files next).Rooted
  ended : ∀ pid, ended pid s → ended pid next

/-- Has it also left the directories at some paths alone: is none made and none removed? -/
structure Spares (s next : σ) : Prop extends w.Passes ended s next where
  directories : ∀ path, ours path → w.hasDirectory path next = w.hasDirectory path s

/-- Has it made a directory at a path, one that no other had on its way? -/
structure Adds (s next : σ) (path : String) : Prop extends w.Passes ended s next where
  ground : File.Pathname.Ground path (w.home s)
  there : w.hasDirectory path next = true
  fresh : ∀ other, ours other → w.hasDirectory other s = true → ¬w.Through other path s
  kept : ∀ other, ours other → w.hasDirectory other s = true → w.hasDirectory other next = true
  others : ∀ other, ours other → w.hasDirectory other next = true →
    w.hasDirectory other s = true ∨ w.Through other path s

/-- Has it removed the directory at a path, and what led through it? -/
structure Removes (s next : σ) (path : String) : Prop extends w.Passes ended s next where
  gone : (w.files next).contains path = false
  others : ∀ other, ours other →
    (w.hasDirectory other next = true ↔ w.hasDirectory other s = true ∧ ¬w.Through other path s)

/-- Has it made a directory at the path that is given, or none if none is? -/
def Leaves (s next : σ) : Option String → Prop
  | some path => w.Adds ours ended s next path
  | none => w.Spares ours ended s next

/-- A world that keeps the files it is given and otherwise leaves some directories alone, in which
a wait for a process succeeds, and a process whose status is known has ended. -/
structure Orderly : Prop where
  files_setFiles : ∀ files s, w.files (w.setFiles files s) = files
  setFiles : ∀ files s pid, ended pid s → ended pid (w.setFiles files s)
  pause : ∀ s, w.Spares ours ended s (w.pause s)
  sleep : ∀ span s, w.Spares ours ended s (w.sleep span s)
  log : ∀ level message context s, w.Spares ours ended s (w.log level message context s)
  summarize : ∀ s, w.Spares ours ended s (w.summarize s)
  draw : ∀ s, w.Spares ours ended s (w.draw s).2
  launch : ∀ l s, w.Spares ours ended s (w.launch l s).2
  capture : ∀ pid channel s, w.Spares ours ended s (w.capture pid channel s).2
  closeInput : ∀ pid s, w.Spares ours ended s (w.closeInput pid s)
  poll : ∀ pid s, w.Spares ours ended s (w.poll pid s).2
  await : ∀ pid s, w.Spares ours ended s (w.await pid s).2
  kill : ∀ pid s, w.Spares ours ended s (w.kill pid s).2
  suffix : ∀ s, '/' ∉ (w.draw s).1.toList
  polled : ∀ pid s status, (w.poll pid s).1 = .ok (some status) → ended pid (w.poll pid s).2
  awaited : ∀ pid s, ∃ status, (w.await pid s).1 = .ok status ∧ ended pid (w.await pid s).2

variable {w ours ended} {s next last : σ} {path : String}

theorem Passes.refl (s : σ) : w.Passes ended s s := ⟨rfl, id, fun _ => id⟩

theorem Passes.trans (h : w.Passes ended s next) (hnext : w.Passes ended next last) :
    w.Passes ended s last where
  home := hnext.home.trans h.home
  rooted hrooted := hnext.rooted (h.rooted hrooted)
  ended pid hended := hnext.ended pid (h.ended pid hended)

theorem Passes.through_iff (h : w.Passes ended s next) {path above : String} :
    w.Through path above next ↔ w.Through path above s := by
  rw [Through, Through, h.home]

theorem Spares.refl (s : σ) : w.Spares ours ended s s := ⟨.refl s, fun _ _ => rfl⟩

theorem Spares.trans (h : w.Spares ours ended s next) (hnext : w.Spares ours ended next last) :
    w.Spares ours ended s last where
  toPasses := h.toPasses.trans hnext.toPasses
  directories path hpath := (hnext.directories path hpath).trans (h.directories path hpath)

theorem Spares.adds (h : w.Spares ours ended s next) (hnext : w.Adds ours ended next last path) :
    w.Adds ours ended s last path where
  toPasses := h.toPasses.trans hnext.toPasses
  ground := h.home ▸ hnext.ground
  there := hnext.there
  fresh other hother hthere := by
    rw [← h.directories other hother] at hthere
    rw [← h.through_iff]
    exact hnext.fresh other hother hthere
  kept other hother hthere := by
    rw [← h.directories other hother] at hthere
    exact hnext.kept other hother hthere
  others other hother hthere := by
    rw [← h.directories other hother, ← h.through_iff]
    exact hnext.others other hother hthere

theorem Adds.spares (h : w.Adds ours ended s next path) (hpath : ours path)
    (hnext : w.Spares ours ended next last) : w.Adds ours ended s last path where
  toPasses := h.toPasses.trans hnext.toPasses
  ground := h.ground
  there := (hnext.directories path hpath).trans h.there
  fresh := h.fresh
  kept other hother hthere := by
    rw [hnext.directories other hother]
    exact h.kept other hother hthere
  others other hother hthere := by
    rw [hnext.directories other hother] at hthere
    exact h.others other hother hthere

theorem Leaves.spares {made : Option String} (h : w.Leaves ours ended s next made)
    (hmade : ∀ path, made = some path → ours path) (hnext : w.Spares ours ended next last) :
    w.Leaves ours ended s last made := by
  cases made with
  | some path => exact Adds.spares h (hmade path rfl) hnext
  | none => exact Spares.trans h hnext

theorem Leaves.passes {made : Option String} (h : w.Leaves ours ended s next made) :
    w.Passes ended s next := by
  cases made with
  | some path => exact Adds.toPasses h
  | none => exact Spares.toPasses h

theorem Leaves.kept {made : Option String} (h : w.Leaves ours ended s next made) (hpath : ours path)
    (hthere : w.hasDirectory path s = true) : w.hasDirectory path next = true := by
  cases made with
  | some other => exact Adds.kept h path hpath hthere
  | none => exact (Spares.directories h path hpath).trans hthere

theorem Adds.removes (h : w.Adds ours ended s next path) (hpath : ours path)
    (hnext : w.Removes ours ended next last path) :
    w.Spares ours ended s last ∧ w.hasDirectory path last = false := by
  refine ⟨⟨h.toPasses.trans hnext.toPasses, fun other hother => ?_⟩, ?_⟩
  · rw [Bool.eq_iff_iff, hnext.others other hother, h.through_iff]
    constructor
    · rintro ⟨hthere, hthrough⟩
      exact (h.others other hother hthere).resolve_right hthrough
    · intro hthere
      exact ⟨h.kept other hother hthere, h.fresh other hother hthere⟩
  · by_contra hthere
    have hself := (hnext.others path hpath).1 (Bool.eq_true_of_not_eq_false hthere)
    exact hself.2 (.self _ _)

namespace Orderly

variable (hw : w.Orderly ours ended)
include hw

theorem passes_setFiles {files : File.Tree} (hhome : files.workingDir = w.home s)
    (hrooted : (w.files s).Rooted → files.Rooted) :
    w.Passes ended s (w.setFiles files s) where
  home := by rw [home, hw.files_setFiles, hhome]
  rooted := by rwa [hw.files_setFiles]
  ended pid := hw.setFiles files s pid

theorem spares_setFiles (s : σ) : w.Spares ours ended s (w.setFiles (w.files s) s) where
  toPasses := hw.passes_setFiles rfl id
  directories path _ := by rw [hasDirectory, hw.files_setFiles, hasDirectory]

theorem createDirectories_there (hrooted : (w.files s).Rooted)
    (hpath : w.hasDirectory path s = true) :
    ∃ next, w.createDirectories path s = (.ok (), next) ∧ w.Spares ours ended s next := by
  refine ⟨w.setFiles (w.files s) s, ?_, hw.spares_setFiles s⟩
  rw [World.createDirectories, File.Tree.createDirectories_there hrooted hpath]

theorem adds_setFiles (hrooted : (w.files s).Rooted) {files : File.Tree}
    (hmade : (w.files s).Made files path) : w.Adds ours ended s (w.setFiles files s) path := by
  refine ⟨hw.passes_setFiles hmade.workingDir fun _ => hrooted.keeps hmade.toGrows,
    hmade.ground, ?_, fun other _ => hmade.fresh other, fun other _ hthere => ?_,
    fun other _ hthere => ?_⟩
  · rw [hasDirectory, hw.files_setFiles]
    exact hmade.there
  · rw [hasDirectory, hw.files_setFiles]
    exact hmade.toGrows.isDirectory hthere
  · rw [hasDirectory, hw.files_setFiles] at hthere
    exact hmade.others other hthere

theorem removeDirectory (hrooted : (w.files s).Rooted)
    (hground : File.Pathname.Ground path (w.home s)) (hpath : w.hasDirectory path s = true) :
    w.Removes ours ended s (w.removeDirectory path s) path := by
  have hremoved := File.Tree.removeAll_removed hrooted hground hpath
  refine ⟨hw.passes_setFiles hremoved.workingDir fun _ => hremoved.rooted, ?_, fun other _ => ?_⟩
  · rw [World.removeDirectory, hw.files_setFiles]
    exact hremoved.gone
  · rw [World.removeDirectory, hasDirectory, hw.files_setFiles]
    exact hremoved.others other

/-- A directory of a new name is made where it is said to be, or none is. -/
theorem createFresh_cases (base stem : String) (hrooted : (w.files s).Rooted) :
    (∃ next, w.createFresh base stem s = (.ok (Path.join base (stem ++ (w.draw s).1)), next) ∧
        w.Adds ours ended s next (Path.join base (stem ++ (w.draw s).1))) ∨
      ∃ fault next, w.createFresh base stem s = (.error fault, next) ∧
        w.Spares ours ended s next := by
  have hdraw := hw.draw s
  have hdrawn := hdraw.rooted hrooted
  unfold createFresh
  rcases hsuffix : w.draw s with ⟨suffix, s'⟩
  rw [hsuffix] at hdraw hdrawn
  dsimp only
  rw [changeFiles]
  cases hcreate : (w.files s').createDirectory (Path.join base (stem ++ suffix)) with
  | ok files =>
    have hadds := hw.adds_setFiles hdrawn (File.Tree.createDirectory_made hdrawn hcreate)
    exact .inl ⟨_, rfl, hdraw.adds hadds⟩
  | error fault => exact .inr ⟨_, s', rfl, hdraw⟩

end Orderly
end Daemon.World

/-! ## Launches -/

namespace Launch

variable {σ : Type} {w : World σ} {ours : String → Prop} {ended : Nat → σ → Prop}
variable {s s' : σ} {base path : String} {c : Command}

/-- The data directory that a launch makes. -/
def made? (w : World σ) (base : String) (c : Command) (s : σ) : Option String :=
  match (makeScratch w base c s).1 with
  | .ok made => made
  | .error _ => none

section

variable (hw : w.Orderly ours ended)
include hw

theorem capture_spares (pid : Nat) (s : σ) : w.Spares ours ended s (capture w pid s).2 := by
  have hstdout := hw.capture pid .stdout s
  rw [capture]
  rcases hcapture : w.capture pid .stdout s with ⟨fault | _, next⟩
  all_goals rw [hcapture] at hstdout
  · exact hstdout
  · exact hstdout.trans (hw.capture pid .stderr next)

variable (hrooted : (w.files s).Rooted) (hbase : w.hasDirectory base s = true)
include hrooted hbase

theorem makeScratch_leaves (c : Command) :
    w.Leaves ours ended s (makeScratch w base c s).2 (made? w base c s) ∧
      ∀ path, made? w base c s = some path →
        ∃ name, path = Path.join base (c.name ++ name) ∧ '/' ∉ name.toList ∧ name ≠ "" := by
  rw [made?, makeScratch]
  split_ifs with hneeds
  · obtain ⟨s₁, hcreate, hspares⟩ := hw.createDirectories_there hrooted hbase
    rw [hcreate]
    dsimp only
    rcases hw.createFresh_cases base (c.name ++ "-datadir-") (hspares.rooted hrooted) with
      ⟨s₂, hfresh, hadds⟩ | ⟨fault, s₂, hfresh, hfault⟩
    · rw [hfresh]
      refine ⟨hspares.adds hadds, fun path hpath => ?_⟩
      cases hpath
      have hsuffix := hw.suffix s₁
      exact ⟨"-datadir-" ++ (w.draw s₁).1, by rw [String.append_assoc], by simpa using hsuffix,
        by simp⟩
    · rw [hfresh]
      exact ⟨hspares.trans hfault, fun _ => nofun⟩
  · exact ⟨.refl s, fun _ => nofun⟩

theorem start_spares (config : Config) (c : Command) (arguments : List String) :
    w.Spares ours ended s (start w config c arguments base s).2 := by
  obtain ⟨s₁, hcreate, hspares⟩ := hw.createDirectories_there hrooted hbase
  rw [start, hcreate]
  dsimp only
  generalize hlog : w.info _ s₁ = s₂
  have hinfo : w.Spares ours ended s s₂ := hlog ▸ hspares.trans (hw.log _ _ _ s₁)
  generalize hstarted : w.launch _ s₂ = started
  have hlaunch : w.Spares ours ended s started.2 := hstarted ▸ hinfo.trans (hw.launch _ s₂)
  rcases started with ⟨fault | pid, s₃⟩
  · exact hlaunch.trans (hw.log _ _ _ s₃)
  · have hcapture := hlaunch.trans (capture_spares hw pid s₃)
    dsimp only
    rcases hcaptured : capture w pid s₃ with ⟨fault | _, s₄⟩
    all_goals rw [hcaptured] at hcapture
    · exact (hcapture.trans (hw.kill pid s₄)).trans (hw.await pid _)
    · exact hcapture.trans (hw.log _ _ _ s₄)

end

/-- What a launch that succeeds hands over: a handle that takes the data directory along if
directories are cleaned up, and knows nothing about the end. -/
structure HandsOver (config : Config) (made : Option String) (h : Handle σ) : Prop where
  status : h.status = none
  scratch : h.scratch = if config.cleanupScratch then made else none
  datadir : ∀ path, made = some path → h.datadir = some path

section

variable (hw : w.Orderly ours ended) (hrooted : (w.files s).Rooted)
variable (hbase : w.hasDirectory base s = true) (hours : ours base) (hdir : c.workingDir = none)
variable (hmade : ∀ path, made? w base c s = some path → ours path)
include hw hrooted hbase hours hdir hmade

theorem run_ok {config : Config} {h : Handle σ} (hrun : run w config base c s = (.ok h, s')) :
    w.Leaves ours ended s s' (made? w base c s) ∧ HandsOver config (made? w base c s) h := by
  have hleaves := (makeScratch_leaves hw hrooted hbase c).1
  have hbase' := hleaves.kept hours hbase
  rw [run] at hrun
  rw [made?] at hmade hleaves ⊢
  rcases hmake : makeScratch w base c s with ⟨e | made, s₁⟩
  all_goals rw [hmake] at hrun hmade hleaves hbase'
  · cases hrun
  · have hstart := start_spares hw (hleaves.passes.rooted hrooted) hbase' config c
      (c.launchArguments made)
    rw [hdir] at hrun
    dsimp only [Option.getD_none] at hrun
    rcases hstarted : start w config c (c.launchArguments made) base s₁ with ⟨e | pid, s₂⟩
    all_goals
      rw [hstarted] at hrun hstart
      cases hrun
    refine ⟨hleaves.spares hmade hstart, rfl, rfl, fun path hpath => ?_⟩
    cases hpath
    rfl

/-- A launch that fails leaves no data directory if directories are cleaned up. -/
theorem run_error {config : Config} {e : Failure} (hrun : run w config base c s = (.error e, s')) :
    if config.cleanupScratch then
      w.Spares ours ended s s' ∧
        ∀ path, made? w base c s = some path → w.hasDirectory path s' = false
    else w.Leaves ours ended s s' (made? w base c s) := by
  have hleaves := (makeScratch_leaves hw hrooted hbase c).1
  have hbase' := hleaves.kept hours hbase
  rw [run] at hrun
  rw [made?] at hmade hleaves ⊢
  rcases hmake : makeScratch w base c s with ⟨e | made, s₁⟩
  all_goals rw [hmake] at hrun hmade hleaves hbase'
  · cases hrun
    split_ifs
    · exact ⟨hleaves, fun _ => nofun⟩
    · exact hleaves
  · have hstart := start_spares hw (hleaves.passes.rooted hrooted) hbase' config c
      (c.launchArguments made)
    rw [hdir] at hrun
    dsimp only [Option.getD_none] at hrun
    rcases hstarted : start w config c (c.launchArguments made) base s₁ with ⟨e | pid, s₂⟩
    all_goals
      rw [hstarted] at hrun hstart
      cases hrun
    have hleaves' := hleaves.spares hmade hstart
    split_ifs with hcleanup
    · cases made with
      | none => exact ⟨hleaves', fun _ => nofun⟩
      | some path =>
        have hadds : w.Adds ours ended s s₂ path := hleaves'
        have hground : File.Pathname.Ground path (w.home s₂) := hadds.home ▸ hadds.ground
        have hremoves := hw.removeDirectory (hadds.rooted hrooted) hground hadds.there
        obtain ⟨hspares, hgone⟩ := hadds.removes (hmade path rfl) hremoves
        refine ⟨hspares, fun other hother => ?_⟩
        cases hother
        exact hgone
    · exact hleaves'

end

end Launch

/-! ## Handles -/

namespace Handle

variable {σ : Type} {w : World σ} {ours : String → Prop} {ended : Nat → σ → Prop} {s : σ}
variable (hw : w.Orderly ours ended)
include hw

/-- A wait for the end of a process comes to it, and is over at once if it is known. -/
theorem awaitEnd_ended (h : Handle σ) (hended : h.status ≠ none → ended h.pid s) :
    ∃ status next, h.awaitEnd w s = (.ok status, { h with status := some status }, next) ∧
      w.Spares ours ended s next ∧ ended h.pid next := by
  rw [awaitEnd]
  cases hstatus : h.status with
  | some status => exact ⟨status, s, by simp [← hstatus], .refl s, hended (by simp [hstatus])⟩
  | none =>
    have hspares := hw.await h.pid s
    obtain ⟨status, hok, hawaited⟩ := hw.awaited h.pid s
    rcases hawait : w.await h.pid s with ⟨result, next⟩
    rw [hawait] at hspares hok hawaited
    cases hok
    exact ⟨status, next, rfl, hspares, hawaited⟩

theorem finishCapture_spares (h : Handle σ) (s : σ) :
    w.Spares ours ended s (h.finishCapture w s).2 :=
  finishCapture_preserves (fun _ hs => hs.trans (hw.pause _))
    (fun _ _ hs => hs.trans (hw.sleep _ _)) (fun _ _ hs => hs.trans (hw.log _ _ _ _)) h (.refl s)

theorem recordUnmatched_spares (h : Handle σ) (status : ExitStatus) (s : σ) :
    w.Spares ours ended s (h.recordUnmatched w status s).2 := by
  unfold recordUnmatched
  split
  · exact .refl s
  · dsimp only
    split_ifs
    · exact hw.log _ _ _ _
    · exact (hw.log _ _ _ _).trans (hw.log _ _ _ _)

omit hw in
theorem recordUnmatched_same (h : Handle σ) (status : ExitStatus) (s : σ) :
    (h.recordUnmatched w status s).1 = { h with
      unmatched := (h.recordUnmatched w status s).1.unmatched
      cursor := (h.recordUnmatched w status s).1.cursor } := by
  unfold recordUnmatched
  split <;> rfl

/-- A wait for the end of a daemon leaves all directories alone, and knows its end. -/
theorem expectExit_ended (h : Handle σ) (hended : h.status ≠ none → ended h.pid s) :
    w.Spares ours ended s (h.expectExit w s).2.2 ∧ ended h.pid (h.expectExit w s).2.2 ∧
      (h.expectExit w s).2.1.pid = h.pid ∧ (h.expectExit w s).2.1.scratch = h.scratch ∧
      (h.expectExit w s).2.1.datadir = h.datadir := by
  obtain ⟨status, s₁, hawait, hspares, hstatus⟩ := awaitEnd_ended hw h hended
  have hfinish := finishCapture_spares hw { h with status := some status } s₁
  have hsame := finishCapture_same (w := w) { h with status := some status } s₁
  rw [expectExit, hawait]
  dsimp only
  rcases hfinished : Handle.finishCapture w { h with status := some status } s₁ with ⟨h₂, s₂⟩
  rw [hfinished] at hfinish hsame
  have hrecord := recordUnmatched_spares hw h₂ status s₂
  have hsame' := recordUnmatched_same (w := w) h₂ status s₂
  have hend := hfinish.trans hrecord
  dsimp only at hsame ⊢
  rw [hsame', hsame]
  rw [hsame] at hend
  exact ⟨hspares.trans hend, hend.ended _ hstatus, rfl, rfl, rfl⟩

omit hw in
/-- A handle whose process has ended: one that still runs is ended first. -/
def reaped (w : World σ) (h : Handle σ) (s : σ) : Handle σ × σ :=
  match h.tryStatus w s with
  | (.ok (some _), h, s) => (h, s)
  | (_, h, s) =>
    let s := w.warn s!"Killing {h.label} still running at drop" s
    let (_, s) := w.kill h.pid s
    let (_, h, s) := h.awaitEnd w s
    (h, s)

theorem reaped_ended (h : Handle σ) (hended : h.status ≠ none → ended h.pid s) :
    w.Spares ours ended s (h.reaped w s).2 ∧ ended h.pid (h.reaped w s).2 ∧
      (h.reaped w s).1.scratch = h.scratch := by
  have hkilled {s' : σ} (hspares : w.Spares ours ended s s') (hstatus : h.status = none) :
      let s' := (w.kill h.pid (w.warn s!"Killing {h.label} still running at drop" s')).2
      w.Spares ours ended s (h.awaitEnd w s').2.2 ∧ ended h.pid (h.awaitEnd w s').2.2 ∧
        (h.awaitEnd w s').2.1.scratch = h.scratch := by
    intro s''
    have hkill : w.Spares ours ended s s'' :=
      (hspares.trans (hw.log _ _ _ s')).trans (hw.kill h.pid _)
    obtain ⟨status, next, hawait, hnext, hend⟩ :=
      awaitEnd_ended (s := s'') hw h (fun hne => absurd hstatus hne)
    rw [hawait]
    exact ⟨hkill.trans hnext, hend, rfl⟩
  unfold reaped tryStatus
  cases hstatus : h.status with
  | some status => exact ⟨.refl s, hended (by simp [hstatus]), rfl⟩
  | none =>
    have hpoll := hw.poll h.pid s
    have hpolled := hw.polled h.pid s
    rcases hresult : w.poll h.pid s with ⟨fault | _ | status, s₁⟩
    all_goals rw [hresult] at hpoll hpolled
    · exact hkilled hpoll hstatus
    · have hsame : { h with status := none } = h := by rw [← hstatus]
      dsimp only
      rw [hsame]
      exact hkilled hpoll hstatus
    · exact ⟨hpoll, hpolled status rfl, rfl⟩

/-- The end of giving a handle up: the directory of its own goes. -/
def removeScratch (w : World σ) (h : Handle σ) (s : σ) : σ :=
  match h.scratch with
  | none => s
  | some path => w.removeDirectory path (w.debug s!"Removing scratch dir {path}" s)

/-- A handle that is given up waits for the end of its process, and then removes its directory. -/
theorem drop_eq (h : Handle σ) (hended : h.status ≠ none → ended h.pid s) :
    ∃ next, w.Spares ours ended s next ∧ ended h.pid next ∧
      h.drop w s = h.scratch.elim next fun path => w.removeDirectory path next := by
  have hclose : w.Spares ours ended s (if h.inputOpen then w.closeInput h.pid s else s) := by
    split_ifs
    · exact hw.closeInput h.pid s
    · exact .refl s
  have hdrop : h.drop w s =
      let killed := h.reaped w (if h.inputOpen then w.closeInput h.pid s else s)
      let captured := killed.1.finishCapture w killed.2
      captured.1.removeScratch w captured.2 := rfl
  rw [hdrop]
  generalize (if h.inputOpen then w.closeInput h.pid s else s) = s₁ at hclose ⊢
  obtain ⟨hreap, hend, hscratch⟩ := reaped_ended (s := s₁) hw h fun hs => hclose.ended _ (hended hs)
  rcases hreaped : h.reaped w s₁ with ⟨h₂, s₂⟩
  rw [hreaped] at hreap hend hscratch
  have hfinish := finishCapture_spares hw h₂ s₂
  have hsame := finishCapture_same (w := w) h₂ s₂
  rcases hfinished : h₂.finishCapture w s₂ with ⟨h₃, s₃⟩
  rw [hfinished] at hfinish hsame
  have hscratch' : h₃.scratch = h.scratch := (congrArg scratch hsame).trans hscratch
  have hspares := (hclose.trans hreap).trans hfinish
  dsimp only
  rw [hfinished, removeScratch, hscratch']
  cases h.scratch with
  | none => exact ⟨s₃, hspares, hfinish.ended _ hend, rfl⟩
  | some path =>
    have hlog := hw.log .debug s!"Removing scratch dir {path}" [] s₃
    exact ⟨_, hspares.trans hlog, hlog.ended _ (hfinish.ended _ hend), rfl⟩

end Handle
end DaemonDialogue
