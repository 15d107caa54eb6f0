import DaemonDialogue.Proofs.Trial.Course

/-!
# Scratch data of a test

The directory of a test is there as long as the test goes on or one of its handles is left, and the
data directory of a handle as long as the handle. With the last of them goes everything that was
made, or nothing does if directories are kept.

A test keeps neither a program from removing a directory, nor a command from being named through
the data directory of another handle, with which its own goes then. Both are left aside; a run of
each kind stands at the end.
-/

namespace DaemonDialogue

open Daemon (World)

namespace Trial
namespace Course

variable {σ : Type} {w : World σ} {ours : String → Prop} {ended : Nat → σ → Prop}
variable {c : Course σ} {s : σ}

/-- Scratch data lives exactly as long as its owners. The directory of the test is there while
anybody is left, and a data directory as long as its handle. A data directory goes with its handle
once the process has ended, before the directory of the test does, or with a launch that fails. In
the end nothing that was made is left, or all of it if directories are kept. -/
structure Lives (w : World σ) (ours : String → Prop) (ended : Nat → σ → Prop) (c : Course σ) :
    Prop where
  root : c.Alive → w.hasDirectory c.trial.root c.state = true
  datadir : ∀ id h path, c.trial.handle? id = some h → c.injected id = some path →
    h.datadir = some path ∧ w.hasDirectory path c.state = true
  drop : c.trial.config.cleanupScratch = true →
    ∀ id h path, c.trial.handle? id = some h → c.injected id = some path →
      ∃ s, (ended h.pid s ∧ w.hasDirectory path s = true ∧ w.hasDirectory c.trial.root s = true) ∧
        h.drop w c.state = w.removeDirectory path s ∧
        (w.files (h.drop w c.state)).contains path = false ∧
        w.hasDirectory c.trial.root (h.drop w c.state) = true
  failed : c.trial.running = true → c.trial.config.cleanupScratch = true →
    ∀ command path e s, command.workingDir = none →
      Launch.made? w c.trial.root command c.state = some path → ours path →
      Launch.run w c.trial.config c.trial.root command c.state = (.error e, s) →
      w.hasDirectory path s = false
  past : ¬c.Alive → c.trial.config.cleanupScratch = true →
    (w.files c.state).contains c.trial.root = false ∧
      ∀ path ∈ c.made, w.hasDirectory path c.state = false
  kept : c.trial.config.cleanupScratch = false → w.hasDirectory c.trial.root c.state = true ∧
    ∀ path ∈ c.made, w.hasDirectory path c.state = true

/-- Has a handle that is still there lost the data directory in front of its arguments? -/
def Loses (w : World σ) (c : Course σ) (id : String) : Prop :=
  ∃ h path, c.trial.handle? id = some h ∧ c.injected id = some path ∧
    w.hasDirectory path c.state = false

theorem Lives.not_loses (h : c.Lives w ours ended) (id : String) : ¬c.Loses w id := by
  rintro ⟨handle, path, hid, hpath, hgone⟩
  rw [(h.datadir id handle path hid hpath).2] at hgone
  cases hgone

variable (hw : w.Orderly ours ended)
include hw

theorem createRoot_adds {name root : String} {config : Config} {s₀ : σ}
    (hrooted : (w.files s₀).Rooted) (hcreate : createRoot w name config s₀ = (.ok root, s)) :
    ∃ s₁, (w.files s₁).Rooted ∧ w.Adds ours ended s₁ s root := by
  have hmade := File.Tree.createDirectories_keeps (w.files s₀) config.tempDir
  have hfiles : (w.files (w.createDirectories config.tempDir s₀).2).Rooted := by
    rw [World.createDirectories, hw.files_setFiles]
    exact hrooted.keeps hmade.toGrows
  unfold createRoot at hcreate
  rcases hbase : w.createDirectories config.tempDir s₀ with ⟨fault | _, s₁⟩
  all_goals rw [hbase] at hcreate hfiles
  · cases hcreate
  · dsimp only at hcreate
    generalize rootStem name ++ w.stamp s₁ ++ "_" = stem at hcreate
    rcases hw.createFresh_cases config.tempDir stem hfiles with
      ⟨s₂, hfresh, hadds⟩ | ⟨fault, s₂, hfresh, -⟩
    all_goals
      rw [hfresh] at hcreate
      cases hcreate
    exact ⟨s₁, hfiles, hadds⟩

theorem standing_of_begin {name : String} {config : Config} {s₀ : σ} {t : Trial σ}
    (hrooted : (w.files s₀).Rooted) (hbegin : begin_ w name config s₀ = (.ok t, s))
    (hours : ours t.root) :
    Standing w ours ended { trial := t, state := s } ∧ t.running = true := by
  unfold begin_ at hbegin
  rcases hcreate : createRoot w name config s₀ with ⟨e | root, s₂⟩
  all_goals
    rw [hcreate] at hbegin
    cases hbegin
  obtain ⟨s₁, hfiles, hadds⟩ := createRoot_adds hw hrooted hcreate
  have hlogs := (hw.log .info s!"Test harness initialized: {name}" [] s₂).trans
    (hw.log .debug "Harness configuration" (summary config root) _)
  exact ⟨standing_of_root rfl hfiles hours (hadds.spares hours hlogs), rfl⟩

/-- A handle removes its data directory once its process has ended, and leaves that of the test. -/
theorem Standing.drop_removes (h : c.Standing w ours ended) {id : String} {handle : Handle σ}
    (hid : c.trial.handle? id = some handle) {path : String}
    (hscratch : handle.scratch = some path) :
    ∃ s, (ended handle.pid s ∧ w.hasDirectory path s = true ∧
        w.hasDirectory c.trial.root s = true) ∧
      handle.drop w c.state = w.removeDirectory path s ∧
      (w.files (handle.drop w c.state)).contains path = false ∧
      w.hasDirectory c.trial.root (handle.drop w c.state) = true := by
  obtain ⟨next, hspares, hend, hdrop⟩ := Handle.drop_eq hw handle (h.status id handle hid)
  rw [hscratch, Option.elim_some] at hdrop
  have howned : c.trial.owned (some id) = some path := (owned_some hid).trans hscratch
  have hnext := h.directories.spares hspares
  obtain ⟨hthere, hground, haside⟩ := hnext.own _ _ howned
  have hremoves := hw.removeDirectory hnext.rooted hground hthere
  refine ⟨next, ⟨hend, hthere, hnext.base⟩, hdrop, ?_⟩
  rw [hdrop]
  exact ⟨hremoves.gone, (hremoves.others _ hnext.ours_base).2 ⟨hnext.base, haside⟩⟩

/-- A launch that fails leaves no data directory behind if directories are cleaned up. -/
theorem Standing.failed_gone (h : c.Standing w ours ended)
    (hcleanup : c.trial.config.cleanupScratch = true) {command : Command}
    (hdir : command.workingDir = none) {path : String}
    (hmade : Launch.made? w c.trial.root command c.state = some path) (hours : ours path)
    {e : Failure}
    (hrun : Launch.run w c.trial.config c.trial.root command c.state = (.error e, s)) :
    w.hasDirectory path s = false := by
  have hours' (other : String)
      (hother : Launch.made? w c.trial.root command c.state = some other) : ours other := by
    rw [hmade] at hother
    cases hother
    exact hours
  have herror := Launch.run_error hw h.directories.rooted h.directories.base h.directories.ours_base
    hdir hours' hrun
  rw [if_pos hcleanup] at herror
  exact herror.2 path hmade

theorem Sound.lives (h : c.Sound w ours ended) : c.Lives w ours ended where
  root halive := (h.standing (.inl halive)).directories.base
  datadir id handle path hid hpath := by
    have hstanding := h.standing_of_handle hid
    obtain ⟨hmade, hdatadir, hscratch⟩ := hstanding.injected id handle path hid hpath
    refine ⟨hdatadir, ?_⟩
    cases hcleanup : c.trial.config.cleanupScratch with
    | true =>
      have howned := (owned_some hid).trans (hscratch hcleanup)
      exact (hstanding.directories.own (some id) path howned).there
    | false => exact hstanding.directories.kept hcleanup path hmade
  drop hcleanup id handle path hid hpath := by
    have hstanding := h.standing_of_handle hid
    exact hstanding.drop_removes hw hid ((hstanding.injected id handle path hid hpath).2.2 hcleanup)
  failed hrunning hcleanup command path e s hdir hmade hours hrun :=
    (h.standing (.inl (.inl hrunning))).failed_gone hw hcleanup hdir hmade hours hrun
  past hover hcleanup := ⟨(h.past hover hcleanup).root, (h.past hover hcleanup).made⟩
  kept hkeep :=
    have hdirectories := (h.standing (.inr hkeep)).directories
    ⟨hdirectories.base, hdirectories.kept hkeep⟩

/-- From the beginning of a test on, whatever is done, its scratch data lives as long as its owners,
if no program removes it and no data directory is made within that of another handle. -/
theorem run_lives {name : String} {config : Config} {s₀ : σ} {t : Trial σ}
    (hrooted : (w.files s₀).Rooted) (hbegin : begin_ w name config s₀ = (.ok t, s))
    {acts : List Act} (hacts : Allows w { trial := t, state := s } acts)
    (hroot : ours t.root)
    (hours : ∀ path ∈ (run w { trial := t, state := s } acts).made, ours path) :
    let c := run w { trial := t, state := s } acts
    (c.trial.root = t.root ∧ c.trial.config = t.config) ∧ c.Lives w ours ended := by
  obtain ⟨hstanding, hrunning⟩ := standing_of_begin hw hrooted hbegin hroot
  have hsound := (hstanding.sound (.inl (.inl hrunning))).run hw hacts hours
  exact ⟨same_run _ acts, hsound.lives hw⟩

end Course

/-! ## A world of one's own -/

/-- Files, and processes that end when they are waited for. -/
structure Bench where
  files : File.Tree := {}
  drawn : Nat := 0
  started : Nat := 0
  ended : List Nat := []

namespace Bench

def world : World Bench where
  now _ := 0
  sleep _ s := s
  log _ _ _ s := s
  count _ _ := 0
  summarize s := s
  files := files
  setFiles files s := { s with files }
  draw s := (String.ofList (List.replicate s.drawn 'a'), { s with drawn := s.drawn + 1 })
  stamp _ := "0"
  launch _ s := (.ok s.started, { s with started := s.started + 1 })
  capture _ _ s := (.ok (), s)
  stream _ _ _ := { closed := true }
  write _ _ s := (.ok (), s)
  closeInput _ s := s
  poll pid s := (.ok (if pid ∈ s.ended then some (.code 0) else none), s)
  await pid s := (.ok (.code 0), { s with ended := pid :: s.ended })
  signal _ _ s := (true, s)
  kill _ s := (.ok (), s)
  connects _ _ := false

def Ended (pid : Nat) (s : Bench) : Prop := pid ∈ s.ended

theorem spares {s next : Bench} (hfiles : next.files = s.files) (hended : s.ended ⊆ next.ended) :
    world.Spares (fun _ => True) Ended s next where
  home := congrArg File.Tree.workingDir hfiles
  rooted hrooted := by
    have hsame : world.files next = world.files s := hfiles
    rwa [hsame]
  ended _ hpid := hended hpid
  directories path _ := congrArg (fun files : File.Tree => files.isDirectory path) hfiles

theorem orderly : world.Orderly (fun _ => True) Ended where
  files_setFiles _ _ := rfl
  setFiles _ _ _ := id
  pause s := spares rfl (List.Subset.refl s.ended)
  sleep _ s := spares rfl (List.Subset.refl s.ended)
  log _ _ _ s := spares rfl (List.Subset.refl s.ended)
  summarize s := spares rfl (List.Subset.refl s.ended)
  draw s := spares rfl (List.Subset.refl s.ended)
  launch _ s := spares rfl (List.Subset.refl s.ended)
  capture _ _ s := spares rfl (List.Subset.refl s.ended)
  closeInput _ s := spares rfl (List.Subset.refl s.ended)
  poll _ s := spares rfl (List.Subset.refl s.ended)
  await pid s := spares rfl (List.subset_cons_self pid s.ended)
  kill _ s := spares rfl (List.Subset.refl s.ended)
  suffix s := by
    have hdrawn : (world.draw s).1.toList = List.replicate s.drawn 'a' := String.toList_ofList
    rw [hdrawn, List.mem_replicate]
    exact fun hmem => absurd hmem.2 (by decide)
  polled pid s status hpoll := by
    by_contra hended
    have hnone : (world.poll pid s).1 = .ok none := congrArg Except.ok (if_neg hended)
    rw [hnone] at hpoll
    cases hpoll
  awaited _ _ := ⟨.code 0, rfl, .head _⟩

/-- Two daemons, of which one outlives the test. -/
def acts : List Act :=
  [.scratchDir "shared", .launch "a" { program := "node", name := "node" },
    .launch "b" { program := "node", name := "node" }, .wait "a", .drop "a", .finish, .drop "b"]

theorem run_lives_two_daemons :
    ∃ t s, begin_ world "test" {} {} = (.ok t, s) ∧
      let c := Course.run world { trial := t, state := s } acts
      (c.made.length = 3 ∧ ¬c.Alive) ∧ (c.state.files.contains t.root = false ∧
        ∀ path ∈ c.made, c.state.files.isDirectory path = false) := by
  have hrooted : (world.files {}).Rooted := ⟨[], rfl⟩
  have hrun : (match begin_ world "test" {} {} with
      | (.ok t, s) =>
        let c := Course.run world { trial := t, state := s } acts
        c.made.length == 3 && !c.trial.running && c.trial.handles.isEmpty &&
          c.trial.config.cleanupScratch
      | (.error _, _) => false) = true := by decide +kernel
  rcases hbegin : begin_ world "test" {} {} with ⟨e | t, s⟩
  all_goals rw [hbegin] at hrun
  · cases hrun
  · simp only [Bool.and_eq_true, beq_iff_eq, Bool.not_eq_true', List.isEmpty_iff] at hrun
    obtain ⟨⟨⟨hmade, hrunning⟩, hhandles⟩, hcleanup⟩ := hrun
    have hover : ¬(Course.run world { trial := t, state := s } acts).Alive := by
      rw [Course.Alive, hrunning, hhandles]
      simp
    obtain ⟨hstanding, hbegun⟩ := Course.standing_of_begin orderly hrooted hbegin trivial
    have hallows : Course.Allows world { trial := t, state := s } acts :=
      (hstanding.sound (.inl (.inl hbegun))).allows_of_plain orderly (by decide) fun _ _ => trivial
    obtain ⟨⟨hroot, -⟩, hlives⟩ := Course.run_lives orderly hrooted hbegin hallows trivial
      fun _ _ => trivial
    have hpast := hlives.past hover hcleanup
    rw [hroot] at hpast
    exact ⟨t, s, rfl, ⟨hmade, hover⟩, hpast⟩

/-- A world in which a program removes the directory that its last argument names. -/
def removing : World Bench :=
  { world with
    launch := fun l s =>
      let (result, s) := world.launch l s
      (result, if l.program == "rm" then world.removeDirectory (l.arguments.getLastD "") s else s) }

/-- Two daemons, of which the second has been named through the data directory of the first. -/
def nested : List Act :=
  [.launch "a" { program := "node", name := "node" },
    .launch "b" { program := "node", name := "node-datadir-a/node" }, .drop "a"]

/-- A daemon, and a program that removes the data directory of the daemon. -/
def removal : List Act :=
  [.launch "a" { program := "node", name := "node" },
    .launch "b" { program := "rm", name := "rm", scratchDatadir := false,
                  arguments := ["-r", "/tmp/cmdtest/test_0_/node-datadir-a"] }]

/-- Does a test lose the data directory of a handle? -/
def loses (w : World Bench) (acts : List Act) (id : String) : Bool :=
  match begin_ w "test" {} {} with
  | (.error _, _) => false
  | (.ok t, s) =>
    let c := Course.run w { trial := t, state := s } acts
    (c.trial.handle? id).isSome && (c.injected id).any fun path => !w.hasDirectory path c.state

theorem exists_loses {w : World Bench} {acts : List Act} {id : String}
    (h : loses w acts id = true) :
    ∃ t s, begin_ w "test" {} {} = (.ok t, s) ∧
      (Course.run w { trial := t, state := s } acts).Loses w id := by
  unfold loses at h
  rcases hbegin : begin_ w "test" {} {} with ⟨e | t, s⟩
  all_goals rw [hbegin] at h
  · cases h
  · obtain ⟨hhandle, hpath⟩ := Bool.and_eq_true_iff.1 h
    obtain ⟨handle, hhandle⟩ := Option.isSome_iff_exists.1 hhandle
    obtain ⟨path, hpath, hgone⟩ := (Option.any_eq_true _ _).1 hpath
    exact ⟨t, s, rfl, handle, path, hhandle, hpath, by simpa using hgone⟩

/-- Both provisos are needed: the data directory of a handle that is still there goes with that of
another one in which it lies, and it goes if a program removes it. -/
theorem run_lives_lost :
    (∃ t s, begin_ world "test" {} {} = (.ok t, s) ∧
      let c := Course.run world { trial := t, state := s } nested
      c.Loses world "b" ∧ ∀ ours ended, ¬c.Lives world ours ended) ∧
    ∃ t s, begin_ removing "test" {} {} = (.ok t, s) ∧
      let c := Course.run removing { trial := t, state := s } removal
      c.Loses removing "a" ∧ ∀ ours ended, ¬c.Lives removing ours ended := by
  constructor
  · obtain ⟨t, s, hbegin, hloses⟩ :=
      exists_loses (show loses world nested "b" = true by decide +kernel)
    exact ⟨t, s, hbegin, hloses, fun _ _ hlives => hlives.not_loses "b" hloses⟩
  · obtain ⟨t, s, hbegin, hloses⟩ :=
      exists_loses (show loses removing removal "a" = true by decide +kernel)
    exact ⟨t, s, hbegin, hloses, fun _ _ hlives => hlives.not_loses "a" hloses⟩

end Bench
end Trial
end DaemonDialogue
