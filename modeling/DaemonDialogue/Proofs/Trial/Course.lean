import DaemonDialogue.Proofs.Lookup
import DaemonDialogue.Proofs.Trial.Directories

/-!
# The course of a test

A test makes directories, launches commands, waits for its daemons and gives them up, in any order.
Every step keeps the directories in order: those that somebody needs or that are to be kept are
there, and when nobody is left the others go.
-/

namespace DaemonDialogue

open Daemon (World)

namespace Trial

variable {σ : Type} {w : World σ}

/-! ## Handles by name -/

/-- The data directories that go with the handles; nothing goes with a handle that is not among them
yet. -/
def owned (t : Trial σ) (slot : Option String) : Option String :=
  slot.bind fun id => (t.handle? id).bind (·.scratch)

theorem owned_eq_some_iff {t : Trial σ} {slot : Option String} {path : String} :
    t.owned slot = some path ↔
      ∃ id h, slot = some id ∧ t.handle? id = some h ∧ h.scratch = some path := by
  simp [owned, Option.bind_eq_some_iff]

theorem owned_some {t : Trial σ} {id : String} {h : Handle σ} (hid : t.handle? id = some h) :
    t.owned (some id) = h.scratch := by
  rw [owned, Option.bind_some, hid, Option.bind_some]

theorem owned_eq_none {t : Trial σ} (hhandles : t.handles = []) (slot : Option String) :
    t.owned slot = none := by
  cases slot with
  | none => rfl
  | some id =>
    rw [owned, Option.bind_some, handle?, hhandles]
    rfl

def without (t : Trial σ) (id : String) : Trial σ :=
  { t with handles := t.handles.filter fun e => e.1 != id }

def withHandle (t : Trial σ) (id : String) (h : Handle σ) : Trial σ :=
  { t with handles := t.handles ++ [(id, h)] }

section Handles

variable (t : Trial σ) (id : String) (h : Handle σ)

theorem handle?_without (other : String) :
    (t.without id).handle? other = if other = id then none else t.handle? other :=
  lookup_removed t.handles id other

theorem handle?_put (other : String) : (t.put id h).handle? other =
    if other = id then (t.handle? id).map fun _ => h else t.handle? other :=
  lookup_renewed t.handles id h other

theorem handle?_withHandle (other : String) : (t.withHandle id h).handle? other =
    (t.handle? other).or (if other = id then some h else none) := by
  rw [handle?, withHandle, List.lookup_append, lookup_cons_eq]
  rfl

theorem owned_without : (t.without id).owned = Function.update t.owned (some id) none := by
  funext slot
  cases slot with
  | none => rfl
  | some other =>
    rw [owned, Option.bind_some, handle?_without]
    split_ifs with hother
    · rw [hother, Function.update_self]
      rfl
    · rw [Function.update_of_ne (by simpa using hother)]
      rfl

variable {t id h}

theorem owned_put {old : Handle σ} (hold : t.handle? id = some old)
    (hsame : h.scratch = old.scratch) :
    (t.put id h).owned = t.owned := by
  funext slot
  cases slot with
  | none => rfl
  | some other =>
    rw [owned, owned, Option.bind_some, Option.bind_some, handle?_put]
    split_ifs with hother
    · rw [hother, hold, Option.map_some, Option.bind_some, Option.bind_some, hsame]
    · rfl

theorem owned_withHandle (hfree : t.handle? id = none) : (t.withHandle id h).owned =
    Function.update t.owned none h.scratch ∘ Equiv.swap none (some id) := by
  funext slot
  rw [Function.comp_apply]
  by_cases hslot : slot = some id
  · rw [hslot, Equiv.swap_apply_right, Function.update_self, owned, Option.bind_some,
      handle?_withHandle, hfree, if_pos rfl]
    rfl
  · cases slot with
    | none =>
      have hother : some id ≠ none := Option.some_ne_none id
      rw [Equiv.swap_apply_left, Function.update_of_ne hother, owned, owned, Option.bind_some,
        hfree]
      rfl
    | some other =>
      have hother : other ≠ id := by simpa using hslot
      have hsome : some other ≠ none := Option.some_ne_none other
      rw [Equiv.swap_apply_of_ne_of_ne hsome hslot, Function.update_of_ne hsome, owned, owned,
        Option.bind_some, Option.bind_some, handle?_withHandle, if_neg hother, Option.or_none]

theorem drop_none (hid : t.handle? id = none) (s : σ) : t.drop w id s = (t, s) := by
  rw [Trial.drop, hid]

theorem drop_some (hid : t.handle? id = some h) (s : σ) :
    t.drop w id s = (t.without id, (t.without id).sweep w (h.drop w s)) := by
  rw [Trial.drop, hid]
  rfl

/-- Nothing is swept as long as the test goes on. -/
theorem sweep_running (hrunning : t.running = true) (s : σ) : t.sweep w s = s := by
  rw [sweep, hrunning]
  simp

end Handles

/-! ## Courses of a test -/

/-- A test with all that it made, and the data directories that were put in front of the arguments
of its handles. -/
structure Course (σ : Type) where
  trial : Trial σ
  state : σ
  made : List String := []
  injected : String → Option String := fun _ => none

/-- What can be done about the directories of a test. -/
inductive Act
  | scratchDir (name : String)
  | launch (id : String) (command : Command)
  | wait (id : String)
  | drop (id : String)
  | finish

/-- Does a step leave the working directory of a command to the test, and has its name no slash? -/
def Act.Plain : Act → Prop
  | .launch _ command => command.workingDir = none ∧ '/' ∉ command.name.toList
  | _ => True

instance : DecidablePred Act.Plain
  | .launch _ _ => inferInstanceAs (Decidable (_ ∧ _))
  | .scratchDir _ | .wait _ | .drop _ | .finish => inferInstanceAs (Decidable True)

namespace Course

/-- Is there still someone for whom the directory of the test has to be there? -/
def Alive (c : Course σ) : Prop := c.trial.running = true ∨ c.trial.handles ≠ []

def launch (w : World σ) (c : Course σ) (id : String) (command : Command) : Course σ :=
  let path := Launch.made? w c.trial.root command c.state
  match c.trial.launch w id command c.state with
  | (.ok _, trial, state) =>
    ⟨trial, state, c.made ++ path.toList, Function.update c.injected id path⟩
  | (.error _, trial, state) => ⟨trial, state, c.made ++ path.toList, c.injected⟩

/-- One step. What is over makes no directories and launches nothing. -/
def step (w : World σ) (c : Course σ) : Act → Course σ
  | .scratchDir name =>
    if c.trial.running then
      let (result, state) := c.trial.scratchDir w name c.state
      { c with state, made := c.made ++ result.toOption.toList }
    else c
  | .launch id command => if c.trial.running then c.launch w id command else c
  | .wait id =>
    match c.trial.handle? id with
    | none => c
    | some h =>
      let (_, h, state) := h.expectExit w c.state
      { c with trial := c.trial.put id h, state }
  | .drop id =>
    let (trial, state) := c.trial.drop w id c.state
    { c with trial, state }
  | .finish =>
    if c.trial.running then
      let (trial, state) := c.trial.finish w c.state
      { c with trial, state }
    else c

def run (w : World σ) (c : Course σ) (acts : List Act) : Course σ := acts.foldl (step w) c

/-- Does a step leave the working directory of a command to the test, and does the data directory
that is made for the command not lie in that of another handle? -/
def Permits (w : World σ) (c : Course σ) : Act → Prop
  | .launch _ command => command.workingDir = none ∧
      ∀ made, Launch.made? w c.trial.root command c.state = some made →
        ∀ id h path, c.trial.handle? id = some h → h.scratch = some path →
          ¬w.Through made path c.state
  | _ => True

/-- Is every step permitted when it is taken? -/
def Allows (w : World σ) (c : Course σ) : List Act → Prop
  | [] => True
  | act :: rest => c.Permits w act ∧ (c.step w act).Allows w rest

variable {c : Course σ}

theorem alive_scratchDir (halive : c.Alive) (name : String) :
    (c.step w (.scratchDir name)).Alive := by
  rw [step]
  split_ifs
  · exact halive
  · exact halive

theorem alive_wait (halive : c.Alive) (id : String) : (c.step w (.wait id)).Alive := by
  rw [step]
  cases c.trial.handle? id with
  | none => exact halive
  | some handle =>
    refine halive.imp_right fun hhandles => ?_
    simpa [put] using hhandles

theorem alive_launch (halive : c.Alive) (id : String) (command : Command) :
    (c.step w (.launch id command)).Alive := by
  rw [step]
  split_ifs with hrunning
  · have hdrop (s : σ) : (c.trial.drop w id s).1.running = c.trial.running := by
      rw [Trial.drop]
      cases c.trial.handle? id <;> rfl
    left
    rw [Course.launch, Trial.launch]
    rcases Launch.run w c.trial.config c.trial.root command c.state with ⟨e | handle, s⟩
    · exact hrunning
    · exact (hdrop s).trans hrunning
  · exact halive

/-- Nothing happens any more when nobody needs the directories. -/
theorem step_of_past (hover : ¬c.Alive) (act : Act) : c.step w act = c := by
  obtain ⟨hrunning, hhandles⟩ := not_or.1 hover
  have hnone (id : String) : c.trial.handle? id = none := by
    rw [handle?, not_not.1 hhandles]
    rfl
  cases act with
  | scratchDir name => exact if_neg hrunning
  | launch id command => exact if_neg hrunning
  | wait id => rw [step, hnone id]
  | drop id => rw [step, drop_none (hnone id)]
  | finish => exact if_neg hrunning

theorem made_launch (c : Course σ) (id : String) (command : Command) :
    (c.launch w id command).made =
      c.made ++ (Launch.made? w c.trial.root command c.state).toList := by
  rw [launch]
  rcases c.trial.launch w id command c.state with ⟨_ | _, _, _⟩ <;> rfl

theorem made_subset_step (c : Course σ) (act : Act) : c.made ⊆ (c.step w act).made := by
  cases act with
  | scratchDir name =>
    rw [Course.step]
    split_ifs
    · exact List.subset_append_left _ _
    · exact List.Subset.refl _
  | launch id command =>
    rw [Course.step]
    split_ifs
    · rw [made_launch]
      exact List.subset_append_left _ _
    · exact List.Subset.refl _
  | wait id =>
    rw [Course.step]
    cases c.trial.handle? id <;> exact List.Subset.refl _
  | drop id => exact List.Subset.refl _
  | finish =>
    rw [Course.step]
    split_ifs <;> exact List.Subset.refl _

theorem made_subset_run (c : Course σ) (acts : List Act) : c.made ⊆ (c.run w acts).made := by
  induction acts generalizing c with
  | nil => exact List.Subset.refl _
  | cons act rest ih => exact List.Subset.trans (made_subset_step c act) (ih (c.step w act))

theorem same_step (c : Course σ) (act : Act) : (c.step w act).trial.root = c.trial.root ∧
    (c.step w act).trial.config = c.trial.config := by
  have hdrop (id : String) (s : σ) : (c.trial.drop w id s).1.root = c.trial.root ∧
      (c.trial.drop w id s).1.config = c.trial.config := by
    rw [Trial.drop]
    cases c.trial.handle? id <;> exact ⟨rfl, rfl⟩
  cases act with
  | scratchDir name =>
    rw [Course.step]
    split_ifs <;> exact ⟨rfl, rfl⟩
  | launch id command =>
    rw [Course.step]
    split_ifs
    · rw [Course.launch, Trial.launch]
      rcases Launch.run w c.trial.config c.trial.root command c.state with ⟨e | handle, s⟩
      · exact ⟨rfl, rfl⟩
      · exact hdrop id s
    · exact ⟨rfl, rfl⟩
  | wait id =>
    rw [Course.step]
    cases c.trial.handle? id <;> exact ⟨rfl, rfl⟩
  | drop id => exact hdrop id c.state
  | finish =>
    rw [Course.step]
    split_ifs <;> exact ⟨rfl, rfl⟩

theorem same_run (c : Course σ) (acts : List Act) : (c.run w acts).trial.root = c.trial.root ∧
    (c.run w acts).trial.config = c.trial.config := by
  induction acts generalizing c with
  | nil => exact ⟨rfl, rfl⟩
  | cons act rest ih =>
    obtain ⟨hroot, hconfig⟩ := same_step (w := w) c act
    obtain ⟨hroot', hconfig'⟩ := ih (c.step w act)
    exact ⟨hroot'.trans hroot, hconfig'.trans hconfig⟩

/-! ## What the steps keep -/

variable (w) (ours : String → Prop) (ended : Nat → σ → Prop)

/-- The handles that know their end have ended, and each has the data directory that was put in
front of its arguments. -/
structure Attended (c : Course σ) : Prop where
  status : ∀ id h, c.trial.handle? id = some h → h.status ≠ none → ended h.pid c.state
  injected : ∀ id h path, c.trial.handle? id = some h → c.injected id = some path →
    path ∈ c.made ∧ h.datadir = some path ∧
      (c.trial.config.cleanupScratch = true → h.scratch = some path)

/-- The directories of a test are there, and each handle owns its own. -/
structure Standing (c : Course σ) : Prop extends Attended ended c where
  directories : Directories w ours c.trial.config.cleanupScratch c.trial.root c.made c.trial.owned
    c.state

/-- What is left when nobody needs the directories any more and they are cleaned up. -/
structure Over (c : Course σ) : Prop where
  root : (w.files c.state).contains c.trial.root = false
  made : ∀ path ∈ c.made, w.hasDirectory path c.state = false

/-- Directories that somebody needs or that are kept are there, and others are not. -/
structure Sound (c : Course σ) : Prop where
  standing : c.Alive ∨ c.trial.config.cleanupScratch = false → c.Standing w ours ended
  past : ¬c.Alive → c.trial.config.cleanupScratch = true → c.Over w

variable {w ours ended} {s : σ}

theorem Standing.sound (h : c.Standing w ours ended)
    (halive : c.Alive ∨ c.trial.config.cleanupScratch = false) : c.Sound w ours ended where
  standing _ := h
  past hover hcleanup := by
    rcases halive with halive | hkeep
    · exact absurd halive hover
    · rw [hkeep] at hcleanup
      cases hcleanup

theorem Standing.spares (h : c.Standing w ours ended) (hspares : w.Spares ours ended c.state s) :
    Standing w ours ended { c with state := s } where
  directories := h.directories.spares hspares
  status id handle hid hstatus := hspares.ended _ (h.status id handle hid hstatus)
  injected := h.injected

theorem Attended.passes (h : c.Attended ended) (hpasses : w.Passes ended c.state s)
    (path? : Option String) :
    Attended ended { c with state := s, made := c.made ++ path?.toList } where
  status id handle hid hstatus := hpasses.ended _ (h.status id handle hid hstatus)
  injected id handle path hid hpath :=
    (h.injected id handle path hid hpath).imp_left (List.mem_append_left _)

theorem Attended.without (h : c.Attended ended) (id : String) :
    Attended ended { c with trial := c.trial.without id } := by
  have hold {other : String} {found : Handle σ}
      (hother : (c.trial.without id).handle? other = some found) :
      c.trial.handle? other = some found := by
    rw [handle?_without] at hother
    split_ifs at hother
    exact hother
  exact ⟨fun other found hother => h.status other found (hold hother),
    fun other found path hother => h.injected other found path (hold hother)⟩

theorem Sound.standing_of_handle (h : c.Sound w ours ended) {id : String} {handle : Handle σ}
    (hid : c.trial.handle? id = some handle) : c.Standing w ours ended := by
  refine h.standing (.inl (.inr fun hnil => ?_))
  rw [handle?, hnil] at hid
  cases hid

/-- A handle that only comes to know its end stays an owner. -/
theorem Standing.put (h : c.Standing w ours ended) {id : String} {handle known : Handle σ}
    (hid : c.trial.handle? id = some handle) (hspares : w.Spares ours ended c.state s)
    (hend : ended known.pid s) (hscratch : known.scratch = handle.scratch)
    (hdatadir : known.datadir = handle.datadir) :
    Standing w ours ended { c with trial := c.trial.put id known, state := s } := by
  have hput {other : String} {found : Handle σ}
      (hother : (c.trial.put id known).handle? other = some found) :
      other = id ∧ known = found ∨ c.trial.handle? other = some found := by
    rw [handle?_put, hid, Option.map_some] at hother
    split_ifs at hother with hsame
    · exact .inl ⟨hsame, Option.some.inj hother⟩
    · exact .inr hother
  refine ⟨⟨fun other found hother hstatus => ?_, fun other found path hother hpath => ?_⟩, ?_⟩
  · rcases hput hother with ⟨-, rfl⟩ | hother
    · exact hend
    · exact hspares.ended _ (h.status other found hother hstatus)
  · rcases hput hother with ⟨rfl, rfl⟩ | hother
    · rw [hdatadir, hscratch]
      exact h.injected other handle path hid hpath
    · exact h.injected other found path hother hpath
  · have hdirectories := h.directories.spares hspares
    rw [← owned_put hid hscratch] at hdirectories
    exact hdirectories

theorem Attended.withHandle (h : c.Attended ended) {id : String} {handle : Handle σ}
    {path? : Option String} (hfree : c.trial.handle? id = none)
    (hdirectories : Directories w ours c.trial.config.cleanupScratch c.trial.root c.made
      (Function.update c.trial.owned none handle.scratch) c.state)
    (hhands : Launch.HandsOver c.trial.config path? handle)
    (hmade : ∀ path, path? = some path → path ∈ c.made) :
    Standing w ours ended { c with
      trial := c.trial.withHandle id handle
      injected := Function.update c.injected id path? } := by
  have hwith {other : String} {found : Handle σ}
      (hother : (c.trial.withHandle id handle).handle? other = some found) :
      other = id ∧ handle = found ∨ other ≠ id ∧ c.trial.handle? other = some found := by
    rw [handle?_withHandle] at hother
    by_cases hsame : other = id
    · rw [hsame, hfree, if_pos rfl] at hother
      exact .inl ⟨hsame, Option.some.inj hother⟩
    · rw [if_neg hsame, Option.or_none] at hother
      exact .inr ⟨hsame, hother⟩
  refine ⟨⟨fun other found hother hknown => ?_, fun other found path hother hpath => ?_⟩, ?_⟩
  · rcases hwith hother with ⟨-, rfl⟩ | ⟨-, hother⟩
    · exact absurd hhands.status hknown
    · exact h.status other found hother hknown
  · have hinjected : Function.update c.injected id path? other = some path := hpath
    rcases hwith hother with ⟨rfl, rfl⟩ | ⟨hne, hother⟩
    · rw [Function.update_self] at hinjected
      refine ⟨hmade path hinjected, hhands.datadir path hinjected, fun hcleanup => ?_⟩
      rw [hhands.scratch, hinjected]
      exact if_pos hcleanup
    · rw [Function.update_of_ne hne] at hinjected
      exact h.injected other found path hother hinjected
  · have hswapped := hdirectories.reindex (Equiv.swap none (some id))
    rw [← owned_withHandle hfree] at hswapped
    exact hswapped

theorem standing_of_root {t : Trial σ} {s₀ : σ} (hhandles : t.handles = [])
    (hrooted : (w.files s₀).Rooted) (hours : ours t.root) (hroot : w.Adds ours ended s₀ s t.root) :
    Standing w ours ended { trial := t, state := s } := by
  have hnone (id : String) : t.handle? id = none := by
    rw [handle?, hhandles]
    rfl
  refine ⟨⟨fun id h hid => ?_, fun id h path hid => ?_⟩, hroot.rooted hrooted, hours, nofun,
    hroot.there, hroot.home ▸ hroot.ground, fun slot path hslot => ?_, fun slot path hslot => ?_,
    fun slot _ path _ _ hslot => ?_, nofun, nofun⟩
  · rw [hnone] at hid
    cases hid
  · rw [hnone] at hid
    cases hid
  all_goals
    rw [owned_eq_none hhandles] at hslot
    cases hslot

variable (hw : w.Orderly ours ended)
include hw

/-- The sweep removes the directories that nobody needs any more. -/
theorem Standing.sweep (h : c.Standing w ours ended) :
    Sound w ours ended { c with state := c.trial.sweep w c.state } := by
  by_cases hneeded : c.Alive ∨ c.trial.config.cleanupScratch = false
  · have hsweep : c.trial.sweep w c.state = c.state := by
      rw [Trial.sweep, if_neg]
      rintro hcondition
      simp only [Bool.and_eq_true, Bool.not_eq_true', List.isEmpty_iff] at hcondition
      rcases hneeded with (hrunning | hhandles) | hkeep
      · rw [hrunning] at hcondition
        exact absurd hcondition.1.2 nofun
      · exact hhandles hcondition.2
      · rw [hkeep] at hcondition
        exact absurd hcondition.1.1 nofun
    rw [hsweep]
    exact h.sound hneeded
  · obtain ⟨hover, hcleanup⟩ := not_or.1 hneeded
    obtain ⟨hrunning, hhandles⟩ := not_or.1 hover
    rw [not_not] at hhandles
    have hcleanup := Bool.eq_true_of_not_eq_false hcleanup
    have hsweep : c.trial.sweep w c.state = w.removeDirectory c.trial.root c.state := by
      rw [Trial.sweep, hcleanup, Bool.eq_false_of_not_eq_true hrunning, hhandles]
      rfl
    have hdirectories := h.directories
    rw [hcleanup] at hdirectories
    have hremoves := hw.removeDirectory hdirectories.rooted hdirectories.ground hdirectories.base
    rw [hsweep]
    refine ⟨fun hneeded' => absurd hneeded' hneeded, fun _ _ => ⟨hremoves.gone, ?_⟩⟩
    exact hdirectories.gone (owned_eq_none hhandles) hremoves

theorem Standing.scratchDir (h : c.Standing w ours ended) (name : String)
    (hours : ∀ path ∈ (c.step w (.scratchDir name)).made, ours path) :
    (c.step w (.scratchDir name)).Standing w ours ended := by
  rw [step] at hours ⊢
  split_ifs at hours ⊢ with hrunning
  · rcases hresult : c.trial.scratchDir w name c.state with ⟨result, next⟩
    rw [hresult] at hours
    obtain ⟨hdirectories, hpasses⟩ := h.directories.scratchDir hw hresult fun path hpath =>
      hours path (by simp [hpath, Except.toOption])
    exact ⟨h.toAttended.passes hpasses result.toOption, hdirectories⟩
  · exact h

theorem Standing.wait (h : c.Standing w ours ended) (id : String) :
    (c.step w (.wait id)).Standing w ours ended := by
  rw [step]
  cases hid : c.trial.handle? id with
  | none => exact h
  | some handle =>
    obtain ⟨hspares, hend, hpid, hscratch, hdatadir⟩ :=
      Handle.expectExit_ended hw handle (h.status id handle hid)
    rw [← hpid] at hend
    exact h.put hid hspares hend hscratch hdatadir

/-- A handle that is given up gives its directory up, whatever becomes of the test. -/
theorem Standing.without (h : c.Standing w ours ended) {id : String} {handle : Handle σ}
    (hid : c.trial.handle? id = some handle) :
    Standing w ours ended
      { c with trial := c.trial.without id, state := handle.drop w c.state } := by
  obtain ⟨hdirectories, hpasses⟩ :=
    h.directories.dropped hw (owned_some hid) (h.status id handle hid)
  have hattended := (h.toAttended.passes hpasses none).without id
  rw [Option.toList_none, List.append_nil] at hattended
  rw [← owned_without] at hdirectories
  exact ⟨hattended, hdirectories⟩

theorem Standing.drop (h : c.Standing w ours ended) (halive : c.Alive) (id : String) :
    (c.step w (.drop id)).Sound w ours ended := by
  rw [step]
  cases hid : c.trial.handle? id with
  | none =>
    rw [drop_none hid]
    exact h.sound (.inl halive)
  | some handle =>
    rw [drop_some hid]
    exact (h.without hw hid).sweep hw

theorem Standing.finish (h : c.Standing w ours ended) (halive : c.Alive) :
    (c.step w .finish).Sound w ours ended := by
  rw [step]
  split_ifs with hrunning
  · have hsummary (s : σ) :
        w.Spares ours ended s (if c.trial.config.printOutput then w.summarize s else s) := by
      split_ifs
      · exact hw.summarize s
      · exact .refl s
    have hover {s : σ} (hspares : w.Spares ours ended c.state s) : Standing w ours ended
        { c with trial := { c.trial with running := false }, state := s } :=
      ⟨⟨(h.spares hspares).status, h.injected⟩, h.directories.spares hspares⟩
    exact (hover ((hw.log _ _ [] c.state).trans (hsummary _))).sweep hw
  · exact h.sound (.inl halive)

theorem Standing.launch_ok (h : c.Standing w ours ended) (hrunning : c.trial.running = true)
    {id : String} {command : Command} (hpermits : c.Permits w (.launch id command))
    (hours : ∀ path, Launch.made? w c.trial.root command c.state = some path → ours path)
    {handle : Handle σ}
    (hrun : Launch.run w c.trial.config c.trial.root command c.state = (.ok handle, s)) :
    (c.launch w id command).Standing w ours ended := by
  obtain ⟨hleaves, hhands⟩ := Launch.run_ok hw h.directories.rooted h.directories.base
    h.directories.ours_base hpermits.1 hours hrun
  have hapart (made : String) (hmade : Launch.made? w c.trial.root command c.state = some made)
      (slot : Option String) (path : String) (hslot : c.trial.owned slot = some path) :
      ¬w.Through made path c.state := by
    obtain ⟨id, found, -, hfound, hscratch⟩ := owned_eq_some_iff.1 hslot
    exact hpermits.2 made hmade id found path hfound hscratch
  have hlaunched := h.directories.launched hw rfl hpermits.1 hapart hours hrun (j := none) rfl
  have hmade (path : String) (hpath : Launch.made? w c.trial.root command c.state = some path) :
      path ∈ c.made ++ (Launch.made? w c.trial.root command c.state).toList := by
    rw [hpath]
    simp
  have hpasses := hleaves.passes
  rw [Course.launch, Trial.launch, hrun]
  dsimp only
  cases hid : c.trial.handle? id with
  | none =>
    rw [drop_none hid]
    have hattended := h.toAttended.passes hpasses (Launch.made? w c.trial.root command c.state)
    exact hattended.withHandle hid hlaunched hhands hmade
  | some old =>
    have hslot : Function.update c.trial.owned none handle.scratch (some id) = old.scratch := by
      rw [Function.update_of_ne (Option.some_ne_none id), owned_some hid]
    obtain ⟨hdropped, hpasses'⟩ := hlaunched.dropped hw hslot
      fun hknown => hpasses.ended _ (h.status id old hid hknown)
    have hattended := (h.toAttended.passes (hpasses.trans hpasses')
      (Launch.made? w c.trial.root command c.state)).without id
    have hfree : (c.trial.without id).handle? id = none := by rw [handle?_without, if_pos rfl]
    rw [Function.update_comm (Option.some_ne_none id).symm, ← owned_without] at hdropped
    have hrunning' : (c.trial.without id).running = true := hrunning
    rw [drop_some hid, sweep_running hrunning']
    exact hattended.withHandle hfree hdropped hhands hmade

theorem Standing.launch_error (h : c.Standing w ours ended) {id : String} {command : Command}
    (hpermits : c.Permits w (.launch id command))
    (hours : ∀ path, Launch.made? w c.trial.root command c.state = some path → ours path)
    {e : Failure}
    (hrun : Launch.run w c.trial.config c.trial.root command c.state = (.error e, s)) :
    (c.launch w id command).Standing w ours ended := by
  obtain ⟨hdirectories, hpasses⟩ :=
    h.directories.failed hw rfl hpermits.1 hours hrun (j := none) rfl
  rw [Course.launch, Trial.launch, hrun]
  exact ⟨h.toAttended.passes hpasses _, hdirectories⟩

theorem Standing.launch (h : c.Standing w ours ended) {id : String} {command : Command}
    (hpermits : c.Permits w (.launch id command))
    (hours : ∀ path ∈ (c.step w (.launch id command)).made, ours path) :
    (c.step w (.launch id command)).Standing w ours ended := by
  rw [step] at hours ⊢
  split_ifs at hours ⊢ with hrunning
  · have hours' (path : String)
        (hpath : Launch.made? w c.trial.root command c.state = some path) : ours path := by
      refine hours path ?_
      rw [made_launch, hpath]
      simp
    rcases hrun : Launch.run w c.trial.config c.trial.root command c.state with ⟨e | handle, s⟩
    · exact h.launch_error hw hpermits hours' hrun
    · exact h.launch_ok hw hrunning hpermits hours' hrun
  · exact h

/-- Whatever is done, the directories that somebody needs are there, and others are not. -/
theorem Sound.step (h : c.Sound w ours ended) {act : Act} (hpermits : c.Permits w act)
    (hours : ∀ path ∈ (c.step w act).made, ours path) : (c.step w act).Sound w ours ended := by
  by_cases halive : c.Alive
  · have hstanding := h.standing (.inl halive)
    cases act with
    | scratchDir name =>
      exact (hstanding.scratchDir hw name hours).sound (.inl (alive_scratchDir halive name))
    | launch id command =>
      exact (hstanding.launch hw hpermits hours).sound (.inl (alive_launch halive id command))
    | wait id => exact (hstanding.wait hw id).sound (.inl (alive_wait halive id))
    | drop id => exact hstanding.drop hw halive id
    | finish => exact hstanding.finish hw halive
  · rw [step_of_past halive]
    exact h

theorem Sound.run (h : c.Sound w ours ended) {acts : List Act} (hacts : c.Allows w acts)
    (hours : ∀ path ∈ (c.run w acts).made, ours path) : (c.run w acts).Sound w ours ended := by
  induction acts generalizing c with
  | nil => exact h
  | cons act rest ih =>
    have hmade := made_subset_run (w := w) (c.step w act) rest
    exact ih (h.step hw hacts.1 fun path hpath => hours path (hmade hpath)) hacts.2 hours

theorem Sound.permits_launch (h : c.Sound w ours ended) {id : String} {command : Command}
    (hdir : command.workingDir = none)
    (henters : ∀ id h path, c.trial.handle? id = some h → h.scratch = some path →
      ¬command.EntersDirectory path) :
    c.Permits w (.launch id command) := by
  refine ⟨hdir, fun made hmade other found path hfound hscratch => ?_⟩
  refine (h.standing_of_handle hfound).directories.apart_made hw (fun slot path hslot => ?_) hmade
    (owned_eq_some_iff.2 ⟨other, found, rfl, hfound, hscratch⟩)
  obtain ⟨id, handle, -, hid, hpath⟩ := owned_eq_some_iff.1 hslot
  exact henters id handle path hid hpath

/-- Commands whose names have no slash are permitted whatever handles there are. -/
theorem Sound.allows_of_plain (h : c.Sound w ours ended) {acts : List Act}
    (hacts : ∀ act ∈ acts, act.Plain) (hours : ∀ path ∈ (c.run w acts).made, ours path) :
    c.Allows w acts := by
  induction acts generalizing c with
  | nil => trivial
  | cons act rest ih =>
    have hplain := hacts act (.head rest)
    have hpermits : c.Permits w act := by
      cases act with
      | launch id command =>
        exact h.permits_launch hw hplain.1 fun _ _ path _ _ =>
          Command.not_entersDirectory hplain.2 path
      | _ => trivial
    have hmade := made_subset_run (w := w) (c.step w act) rest
    have hnext := h.step hw hpermits fun path hpath => hours path (hmade hpath)
    exact ⟨hpermits, ih hnext (fun other hother => hacts other (.tail act hother)) hours⟩

end Course
end Trial
end DaemonDialogue
