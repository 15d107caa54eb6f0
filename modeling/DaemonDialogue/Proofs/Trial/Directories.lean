import DaemonDialogue.Proofs.Daemon.Scratch
import DaemonDialogue.Trial.Basic

/-!
# Directories with owners

The directory of a test is there together with those of some owners, none on the way to another. An
owner can come with a new directory and go with it, and what was made goes with the directory of the
test once there are no owners.

A data directory has a part in its name that is drawn, and the name of its command stands before
that part. Only a command that has been named after the draw of another handle has its directory
made below that of the other.
-/

namespace DaemonDialogue

open Daemon (World)
open File (Pathname)

/-- Is a directory named, with a slash behind its name, in the name of a command? -/
def Command.EntersDirectory (c : Command) (path : String) : Prop :=
  ∃ last, (Pathname.names path).getLast? = some last ∧ last ∈ Pathname.leading c.name

theorem Command.not_entersDirectory {c : Command} (hname : '/' ∉ c.name.toList) (path : String) :
    ¬c.EntersDirectory path := by
  rintro ⟨last, -, hlast⟩
  rw [File.Tree.leading_of_notMem (File.Tree.slash_notMem hname)] at hlast
  cases hlast

theorem Component.ofName_plain (name : String) :
    '/' ∉ (Component.ofName name).toList ∧ Component.ofName name ≠ "" := by
  rw [Component.ofName]
  split_ifs with hempty
  · decide
  · constructor
    · rw [String.toList_ofList, List.mem_map]
      rintro ⟨c, -, hc⟩
      split_ifs at hc with hplain
      · subst hc
        exact absurd hplain (by decide)
      · exact absurd hc (by decide)
    · intro hnil
      have hlength := congrArg (fun text : String => text.toList.length) hnil
      simp at hlength
      simp [hlength] at hempty

namespace Trial

variable {σ ι : Type} (w : World σ) (ours : String → Prop) (ended : Nat → σ → Prop)

/-! ## Directories and their owners -/

/-- Does a path lead through the directory of a test or through that of an owner? -/
def Covered (root : String) (owned : ι → Option String) (path : String) (s : σ) : Prop :=
  w.Through path root s ∨ ∃ i other, owned i = some other ∧ w.Through path other s

/-- The directory of an owner is there, and it is not on the way to the directory of the test. -/
structure Own (root path : String) (s : σ) : Prop where
  there : w.hasDirectory path s = true
  ground : Pathname.Ground path (w.home s)
  aside : ¬w.Through root path s

/-- The directory of a test and those of its owners are there, none on the way to another one. Of
what was made only what is below them is there if directories are cleaned up, else everything. -/
structure Directories (cleanup : Bool) (root : String) (made : List String)
    (owned : ι → Option String) (s : σ) : Prop where
  rooted : (w.files s).Rooted
  ours_base : ours root
  ours_made : ∀ path ∈ made, ours path
  base : w.hasDirectory root s = true
  ground : Pathname.Ground root (w.home s)
  owners : ∀ i path, owned i = some path → cleanup = true ∧ path ∈ made
  own : ∀ i path, owned i = some path → Own w root path s
  apart : ∀ i j path other, i ≠ j → owned i = some path → owned j = some other →
    ¬w.Through path other s
  covered : cleanup = true → ∀ path ∈ made, w.hasDirectory path s = true →
    Covered w root owned path s
  kept : cleanup = false → ∀ path ∈ made, w.hasDirectory path s = true

variable {w ours ended} {cleanup : Bool} {root path : String} {made : List String}
variable {owned : ι → Option String} {s next : σ}

theorem covered_iff (h : w.Passes ended s next) :
    Covered w root owned path next ↔ Covered w root owned path s := by
  simp only [Covered, h.through_iff]

theorem Own.spares (h : Own w root path s) (hpath : ours path)
    (hnext : w.Spares ours ended s next) : Own w root path next where
  there := (hnext.directories path hpath).trans h.there
  ground := hnext.home ▸ h.ground
  aside := by
    rw [hnext.through_iff]
    exact h.aside

theorem Own.adds {other : String} (h : Own w root path s) (hpath : ours path)
    (hadds : w.Adds ours ended s next other) : Own w root path next where
  there := hadds.kept path hpath h.there
  ground := hadds.home ▸ h.ground
  aside := by
    rw [hadds.through_iff]
    exact h.aside

namespace Directories

theorem ours_owned (h : Directories w ours cleanup root made owned s) {i : ι}
    (hi : owned i = some path) : ours path :=
  h.ours_made path (h.owners i path hi).2

theorem spares (h : Directories w ours cleanup root made owned s)
    (hnext : w.Spares ours ended s next) : Directories w ours cleanup root made owned next where
  rooted := hnext.rooted h.rooted
  ours_base := h.ours_base
  ours_made := h.ours_made
  base := (hnext.directories root h.ours_base).trans h.base
  ground := hnext.home ▸ h.ground
  owners := h.owners
  own i path hi := (h.own i path hi).spares (h.ours_owned hi) hnext
  apart i j path other hij hi hj := by
    rw [hnext.through_iff]
    exact h.apart i j path other hij hi hj
  covered hcleanup path hpath hthere := by
    rw [hnext.directories path (h.ours_made path hpath)] at hthere
    exact (covered_iff hnext.toPasses).2 (h.covered hcleanup path hpath hthere)
  kept hcleanup path hpath :=
    (hnext.directories path (h.ours_made path hpath)).trans (h.kept hcleanup path hpath)

theorem adds_below (h : Directories w ours cleanup root made owned s)
    (hadds : w.Adds ours ended s next path)
    (hbelow : Pathname.place root (w.home s) <+: Pathname.place path (w.home s)) :
    Directories w ours cleanup root made owned next where
  rooted := hadds.rooted h.rooted
  ours_base := h.ours_base
  ours_made := h.ours_made
  base := hadds.kept root h.ours_base h.base
  ground := hadds.home ▸ h.ground
  owners := h.owners
  own i path hi := (h.own i path hi).adds (h.ours_owned hi) hadds
  apart i j path other hij hi hj := by
    rw [hadds.through_iff]
    exact h.apart i j path other hij hi hj
  covered hcleanup other hother hthere := by
    rw [covered_iff hadds.toPasses]
    rcases hadds.others other (h.ours_made other hother) hthere with hthere | hthrough
    · exact h.covered hcleanup other hother hthere
    · exact .inl (hthrough.above hbelow)
  kept hcleanup other hother :=
    hadds.kept other (h.ours_made other hother) (h.kept hcleanup other hother)

theorem append (h : Directories w ours cleanup root made owned s) (hours : ours path)
    (hcovered : cleanup = true → w.hasDirectory path s = true → Covered w root owned path s)
    (hkept : cleanup = false → w.hasDirectory path s = true) :
    Directories w ours cleanup root (made ++ [path]) owned s where
  rooted := h.rooted
  ours_base := h.ours_base
  ours_made := List.forall_mem_append.2 ⟨h.ours_made, by simpa using hours⟩
  base := h.base
  ground := h.ground
  owners i path hi := (h.owners i path hi).imp_right (List.mem_append_left _)
  own := h.own
  apart := h.apart
  covered hcleanup :=
    List.forall_mem_append.2 ⟨h.covered hcleanup, by simpa using hcovered hcleanup⟩
  kept hcleanup := List.forall_mem_append.2 ⟨h.kept hcleanup, by simpa using hkept hcleanup⟩

theorem reindex (h : Directories w ours cleanup root made owned s) (e : ι ≃ ι) :
    Directories w ours cleanup root made (owned ∘ e) s where
  rooted := h.rooted
  ours_base := h.ours_base
  ours_made := h.ours_made
  base := h.base
  ground := h.ground
  owners i := h.owners (e i)
  own i := h.own (e i)
  apart i j path other hij := h.apart (e i) (e j) path other (e.injective.ne hij)
  covered hcleanup path hpath hthere := by
    refine (h.covered hcleanup path hpath hthere).imp_right ?_
    rintro ⟨i, other, hi, hthrough⟩
    exact ⟨e.symm i, other, by simpa using hi, hthrough⟩
  kept := h.kept

theorem gone (h : Directories w ours true root made owned s) (hnone : ∀ i, owned i = none)
    (hnext : w.Removes ours ended s next root) :
    ∀ path ∈ made, w.hasDirectory path next = false := by
  intro path hpath
  by_contra hthere
  obtain ⟨hbefore, hthrough⟩ :=
    (hnext.others path (h.ours_made path hpath)).1 (Bool.eq_true_of_not_eq_false hthere)
  rcases h.covered rfl path hpath hbefore with hroot | ⟨i, other, hi, -⟩
  · exact hthrough hroot
  · rw [hnone i] at hi
    cases hi

theorem scratchDir {t : Trial σ} (h : Directories w ours cleanup t.root made owned s)
    (hw : w.Orderly ours ended) {name : String} {result : Except Failure String}
    (hresult : t.scratchDir w name s = (result, next))
    (hours : ∀ path, result = .ok path → ours path) :
    Directories w ours cleanup t.root (made ++ result.toOption.toList) owned next ∧
      w.Passes ended s next := by
  obtain ⟨hname, hne⟩ := Component.ofName_plain name
  have hbase := File.Tree.ne_empty_of_isDirectory h.rooted h.base
  obtain ⟨-, hvisited, hplace⟩ := (File.Tree.isDirectory_iff h.rooted).1 h.base
  have hthrough : w.Through (Path.join t.root (Component.ofName name)) t.root s :=
    File.Tree.through_join hbase h.ground hname hne
  have hpath := File.Tree.join_ne_empty hbase (File.Tree.isAbsolute_eq_false hname)
  rw [Trial.scratchDir, World.createDirectories] at hresult
  rcases File.Tree.createDirectories_cases h.rooted hpath
    ((File.Tree.forall_visited_name hbase hname hne _).2 ⟨hvisited, fun _ => hplace⟩) with
    ⟨files, hcreate, hmade⟩ | ⟨hcreate, hthere⟩ | ⟨fault, hcreate⟩
  all_goals
    rw [hcreate] at hresult
    cases hresult
  · have hadds := hw.adds_setFiles h.rooted hmade
    have hbelow := File.Tree.place_join hbase hname hne hadds.ground
    refine ⟨(h.adds_below hadds hbelow).append (hours _ rfl) (fun _ _ => .inl ?_)
      fun _ => hadds.there, hadds.toPasses⟩
    rwa [hadds.through_iff]
  · have hspares := hw.spares_setFiles s
    refine ⟨(h.spares hspares).append (hours _ rfl) (fun _ _ => .inl ?_) fun _ => ?_,
      hspares.toPasses⟩
    · rwa [hspares.through_iff]
    · exact (hspares.directories _ (hours _ rfl)).trans hthere
  · have hspares := hw.spares_setFiles s
    exact ⟨by simpa [Except.toOption] using h.spares hspares, hspares.toPasses⟩

variable [DecidableEq ι]

theorem update_eq_some_iff {i j : ι} {value : Option String} :
    Function.update owned j value i = some path ↔
      i = j ∧ value = some path ∨ i ≠ j ∧ owned i = some path := by
  by_cases hij : i = j
  · subst hij
    simp
  · simp [hij]

theorem covered_update {j : ι} (hj : owned j = none) (value : Option String)
    (h : Covered w root owned path s) :
    Covered w root (Function.update owned j value) path s := by
  refine h.imp_right ?_
  rintro ⟨i, above, hi, habove⟩
  have hij : i ≠ j := by
    rintro rfl
    rw [hj] at hi
    cases hi
  exact ⟨i, above, update_eq_some_iff.2 (.inr ⟨hij, hi⟩), habove⟩

/-- A new owner can have its directory made if the way there does not lead through another's. -/
theorem adds (h : Directories w ours cleanup root made owned s)
    (hadds : w.Adds ours ended s next path) (hours : ours path)
    (hapart : ∀ i other, owned i = some other → ¬w.Through path other s) {j : ι}
    (hj : owned j = none) :
    Directories w ours cleanup root (made ++ [path])
      (Function.update owned j (if cleanup then some path else none)) next := by
  have hnew : ∀ i other, Function.update owned j (if cleanup then some path else none) i =
      some other → i = j ∧ cleanup = true ∧ path = other ∨ i ≠ j ∧ owned i = some other := by
    intro i other hi
    rwa [update_eq_some_iff, Option.ite_none_right_eq_some, Option.some.injEq] at hi
  have hfresh {other : String} (hother : ours other) (hthere : w.hasDirectory other s = true) :
      ¬w.Through other path next := by
    rw [hadds.through_iff]
    exact hadds.fresh other hother hthere
  refine ⟨hadds.rooted h.rooted, h.ours_base, ?_, hadds.kept root h.ours_base h.base,
    hadds.home ▸ h.ground, ?_, ?_, ?_, ?_, ?_⟩
  · exact List.forall_mem_append.2 ⟨h.ours_made, by simpa using hours⟩
  · intro i other hi
    rcases hnew i other hi with ⟨-, hcleanup, rfl⟩ | ⟨-, hi⟩
    · exact ⟨hcleanup, by simp⟩
    · exact (h.owners i other hi).imp_right (List.mem_append_left _)
  · intro i other hi
    rcases hnew i other hi with ⟨-, -, rfl⟩ | ⟨-, hi⟩
    · exact ⟨hadds.there, hadds.home ▸ hadds.ground, hfresh h.ours_base h.base⟩
    · exact (h.own i other hi).adds (h.ours_owned hi) hadds
  · intro i i' other other' hne hi hi'
    rcases hnew i other hi with ⟨hij, -, rfl⟩ | ⟨-, hi⟩
    · rcases hnew i' other' hi' with ⟨hij', -⟩ | ⟨-, hi'⟩
      · exact absurd (hij.trans hij'.symm) hne
      · rw [hadds.through_iff]
        exact hapart i' other' hi'
    · rcases hnew i' other' hi' with ⟨-, -, rfl⟩ | ⟨-, hi'⟩
      · exact hfresh (h.ours_owned hi) (h.own i other hi).there
      · rw [hadds.through_iff]
        exact h.apart i i' other other' hne hi hi'
  · intro hcleanup
    have hself : Function.update owned j (if cleanup then some path else none) j = some path := by
      rw [Function.update_self, if_pos hcleanup]
    refine List.forall_mem_append.2 ⟨fun other hother hthere => ?_, ?_⟩
    · rw [covered_iff hadds.toPasses]
      rcases hadds.others other (h.ours_made other hother) hthere with hthere | hthrough
      · exact covered_update hj _ (h.covered hcleanup other hother hthere)
      · exact .inr ⟨j, path, hself, hthrough⟩
    · rw [List.forall_mem_singleton]
      exact fun _ => .inr ⟨j, path, hself, .self _ _⟩
  · intro hcleanup
    refine List.forall_mem_append.2 ⟨fun other hother => ?_, by simpa using hadds.there⟩
    exact hadds.kept other (h.ours_made other hother) (h.kept hcleanup other hother)

theorem removes (h : Directories w ours cleanup root made owned s) {i : ι}
    (hi : owned i = some path) (hnext : w.Removes ours ended s next path) :
    Directories w ours cleanup root made (Function.update owned i none) next := by
  have hcleanup := (h.owners i path hi).1
  have hold : ∀ j other, Function.update owned i none j = some other →
      j ≠ i ∧ owned j = some other := by
    intro j other hj
    exact (update_eq_some_iff.1 hj).resolve_left nofun
  refine ⟨hnext.rooted h.rooted, h.ours_base, h.ours_made, ?_, hnext.home ▸ h.ground, ?_, ?_, ?_,
    ?_, fun hkeep => ?_⟩
  · exact (hnext.others root h.ours_base).2 ⟨h.base, (h.own i path hi).aside⟩
  · intro j other hj
    exact h.owners j other (hold j other hj).2
  · intro j other hj
    obtain ⟨hji, hj⟩ := hold j other hj
    obtain ⟨hthere, hground, haside⟩ := h.own j other hj
    refine ⟨?_, hnext.home ▸ hground, by rwa [hnext.through_iff]⟩
    exact (hnext.others other (h.ours_owned hj)).2 ⟨hthere, h.apart j i other path hji hj hi⟩
  · intro j j' other other' hne hj hj'
    rw [hnext.through_iff]
    exact h.apart j j' other other' hne (hold j other hj).2 (hold j' other' hj').2
  · intro _ other hother hthere
    rw [covered_iff hnext.toPasses]
    obtain ⟨hbefore, hthrough⟩ := (hnext.others other (h.ours_made other hother)).1 hthere
    refine (h.covered hcleanup other hother hbefore).imp_right ?_
    rintro ⟨j, above, hj, habove⟩
    have hji : j ≠ i := by
      rintro rfl
      rw [hi] at hj
      cases hj
      exact hthrough habove
    exact ⟨j, above, update_eq_some_iff.2 (.inr ⟨hji, hj⟩), habove⟩
  · rw [hkeep] at hcleanup
    cases hcleanup

variable (hw : w.Orderly ours ended)
include hw

theorem dropped (h : Directories w ours cleanup root made owned s) {i : ι} {handle : Handle σ}
    (hi : owned i = handle.scratch) (hended : handle.status ≠ none → ended handle.pid s) :
    Directories w ours cleanup root made (Function.update owned i none) (handle.drop w s) ∧
      w.Passes ended s (handle.drop w s) := by
  obtain ⟨next, hspares, -, hdrop⟩ := Handle.drop_eq hw handle hended
  have hnext := h.spares hspares
  rw [hdrop]
  cases hscratch : handle.scratch with
  | none =>
    rw [hscratch] at hi
    have hsame : Function.update owned i none = owned := by rw [← hi, Function.update_eq_self]
    rw [hsame]
    exact ⟨hnext, hspares.toPasses⟩
  | some path =>
    rw [hscratch] at hi
    obtain ⟨hthere, hground, -⟩ := hnext.own i path hi
    have hremoves := hw.removeDirectory hnext.rooted hground hthere
    exact ⟨hnext.removes hi hremoves, hspares.toPasses.trans hremoves.toPasses⟩

omit [DecidableEq ι] in
/-- The way to a new data directory leads through no other one that the name of the command does not
lead through. -/
theorem apart_made (h : Directories w ours cleanup root made owned s) {c : Command}
    (henters : ∀ i other, owned i = some other → ¬c.EntersDirectory other)
    (hmade : Launch.made? w root c s = some path) {i : ι} {other : String}
    (hi : owned i = some other) : ¬w.Through path other s := by
  obtain ⟨hleaves, hnamed⟩ := Launch.makeScratch_leaves hw h.rooted h.base c
  obtain ⟨name, rfl, hname, hne⟩ := hnamed path hmade
  rw [hmade] at hleaves
  have hadds : w.Adds ours ended s (Launch.makeScratch w root c s).2 _ := hleaves
  obtain ⟨hthere, hground, haside⟩ := h.own i other hi
  have hfresh := hadds.fresh other (h.ours_owned hi) hthere
  have hbase := File.Tree.ne_empty_of_isDirectory h.rooted h.base
  refine File.Tree.not_through_join hbase hname hne hadds.ground hground haside
    (fun last hlast hmem => henters i other hi ⟨last, hlast, hmem⟩) fun hplace => hfresh ?_
  have hself := Pathname.Through.self other (w.home s)
  rwa [hplace] at hself

theorem launched (h : Directories w ours cleanup root made owned s) {config : Config}
    (hcleanup : config.cleanupScratch = cleanup) {c : Command} (hdir : c.workingDir = none)
    (hapart : ∀ path, Launch.made? w root c s = some path →
      ∀ i other, owned i = some other → ¬w.Through path other s)
    (hours : ∀ path, Launch.made? w root c s = some path → ours path) {handle : Handle σ}
    (hrun : Launch.run w config root c s = (.ok handle, next)) {j : ι} (hj : owned j = none) :
    Directories w ours cleanup root (made ++ (Launch.made? w root c s).toList)
      (Function.update owned j handle.scratch) next := by
  obtain ⟨hleaves, hhands⟩ := Launch.run_ok hw h.rooted h.base h.ours_base hdir hours hrun
  rw [hhands.scratch, hcleanup]
  cases hmade : Launch.made? w root c s with
  | none =>
    rw [hmade] at hleaves
    have hspares : w.Spares ours ended s next := hleaves
    rw [Option.toList_none, List.append_nil, ite_self, ← hj, Function.update_eq_self]
    exact h.spares hspares
  | some path =>
    rw [hmade] at hleaves
    exact h.adds hleaves (hours path hmade) (hapart path hmade) hj

theorem failed (h : Directories w ours cleanup root made owned s) {config : Config}
    (hcleanup : config.cleanupScratch = cleanup) {c : Command} (hdir : c.workingDir = none)
    (hours : ∀ path, Launch.made? w root c s = some path → ours path) {e : Failure}
    (hrun : Launch.run w config root c s = (.error e, next)) {j : ι} (hj : owned j = none) :
    Directories w ours cleanup root (made ++ (Launch.made? w root c s).toList) owned next ∧
      w.Passes ended s next := by
  have herror := Launch.run_error hw h.rooted h.base h.ours_base hdir hours hrun
  rw [hcleanup] at herror
  cases cleanup with
  | true =>
    obtain ⟨hspares, hgone⟩ := herror
    refine ⟨?_, hspares.toPasses⟩
    cases hmade : Launch.made? w root c s with
    | none => simpa using h.spares hspares
    | some path =>
      refine (h.spares hspares).append (hours path hmade) (fun _ hthere => ?_) nofun
      rw [hgone path hmade] at hthere
      cases hthere
  | false =>
    have hleaves : w.Leaves ours ended s next (Launch.made? w root c s) := herror
    refine ⟨?_, hleaves.passes⟩
    cases hmade : Launch.made? w root c s with
    | none =>
      rw [hmade] at hleaves
      simpa using h.spares hleaves
    | some path =>
      rw [hmade] at hleaves
      have hadds := h.adds hleaves (hours path hmade) (fun i other hi => ?_) hj
      · have hsame : Function.update owned j none = owned := by rw [← hj, Function.update_eq_self]
        rw [if_neg Bool.false_ne_true, hsame] at hadds
        exact hadds
      · cases (h.owners i other hi).1

end Directories

end Trial
end DaemonDialogue
