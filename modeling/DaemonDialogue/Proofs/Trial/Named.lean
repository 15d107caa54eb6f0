import DaemonDialogue.Proofs.Trial.Scratch

/-!
# Named directories of a test

A name is made a component of a path character by character, so that it has neither a slash nor
nothing in it. The two names that every directory has for itself and for the one above it pass
unchanged, though. A directory of any other name lies in the directory of the test and goes with it;
under those two names it is that directory itself, or the one above it, which stays.
-/

namespace DaemonDialogue

open Daemon (World)
open File (Pathname Place)

/-! ## Components of paths -/

namespace Component

/-- Is a text an ordinary component of a path? -/
structure Ordinary (text : String) : Prop where
  nonempty : text ≠ ""
  slash : '/' ∉ text.toList
  here : text ≠ "."
  up : text ≠ ".."

theorem ofName_eq_iff {name dots : String} (hdots : ∀ c ∈ dots.toList, c = '.') (hne : dots ≠ "") :
    ofName name = dots ↔ name = dots := by
  have hkept {text : List Char} (htext : ∀ c ∈ text, c = '.') :
      (text.map fun c => if isPlain c then c else '_') = text := by
    rw [List.map_congr_left (g := id), List.map_id]
    intro c hc
    rw [htext c hc]
    rfl
  constructor
  · intro h
    by_cases hempty : name = ""
    · subst hempty
      have ht : 't' ∈ dots.toList := h ▸ by decide
      exact absurd (hdots 't' ht) (by decide)
    · rw [ofName, if_neg (by simpa using hempty)] at h
      have hchars := congrArg String.toList h
      rw [String.toList_ofList] at hchars
      refine String.toList_inj.1 ((hkept fun c hc => ?_).symm.trans hchars)
      have hdot : (if isPlain c then c else '_') = '.' :=
        hdots _ (hchars ▸ List.mem_map_of_mem hc)
      split_ifs at hdot
      · exact hdot
      · exact absurd hdot (by decide)
  · rintro rfl
    rw [ofName, if_neg (by simpa using hne), hkept hdots, String.ofList_toList]

theorem ofName_dots (name : String) :
    (ofName name = "." ↔ name = ".") ∧ (ofName name = ".." ↔ name = "..") :=
  ⟨ofName_eq_iff (by simp) (by decide), ofName_eq_iff (by simp) (by decide)⟩

/-- Only the two names of dots that a path does not take for names are no ordinary components. -/
theorem ordinary_ofName_iff (name : String) :
    Ordinary (ofName name) ↔ name ≠ "." ∧ name ≠ ".." := by
  obtain ⟨hhere, hup⟩ := ofName_dots name
  constructor
  · rintro ⟨-, -, hnothere, hnotup⟩
    exact ⟨mt hhere.2 hnothere, mt hup.2 hnotup⟩
  · rintro ⟨hnothere, hnotup⟩
    obtain ⟨hslash, hne⟩ := ofName_plain name
    exact ⟨hne, hslash, mt hhere.1 hnothere, mt hup.1 hnotup⟩

end Component

/-! ## One directory -/

namespace Trial

variable {σ : Type} {w : World σ} {ours : String → Prop} {ended : Nat → σ → Prop}

/-- Does the directory of a test stand, at a place of its own? -/
structure Stands (w : World σ) (root : String) (s : σ) : Prop where
  rooted : (w.files s).Rooted
  there : w.hasDirectory root s = true
  ground : Pathname.Ground root (w.home s)

section Stands

variable {t : Trial σ} {root path : String} {s next later : σ}

theorem Stands.ne_empty (h : Stands w root s) : root ≠ "" :=
  File.Tree.ne_empty_of_isDirectory h.rooted h.there

/-- Where the directory of a name is: within that of the test, at it, or above it. -/
theorem target_named (h : Stands w root s) (title : String) :
    Pathname.target (Path.join root (Component.ofName title)) (w.home s) =
      if title = "." then (Pathname.place root (w.home s), none)
      else if title = ".." then ((Pathname.place root (w.home s)).dropLast, none)
      else (Pathname.place root (w.home s), some (Utf8.encode (Component.ofName title))) := by
  obtain ⟨hslash, hne⟩ := Component.ofName_plain title
  have hnames := File.Tree.names_name hslash hne
  obtain ⟨hhere, hup⟩ := Component.ofName_dots title
  have hbytes (dots : String) :
      Utf8.encode (Component.ofName title) = Utf8.encode dots ↔ Component.ofName title = dots :=
    ⟨fun heq => Utf8.encode_injective heq, fun heq => congrArg Utf8.encode heq⟩
  rw [File.Tree.target_join h.ne_empty (File.Tree.isAbsolute_eq_false hslash) (by simp [hnames]),
    hnames, File.target]
  exact if_congr ((hbytes ".").trans hhere) rfl
    (if_congr ((hbytes "..").trans hup) rfl (if_pos rfl))

theorem scratchDir_there (hset : ∀ files s, w.files (w.setFiles files s) = files) {title : String}
    (h : Stands w t.root s) (hdir : t.scratchDir w title s = (.ok path, next)) :
    path = Path.join t.root (Component.ofName title) ∧
      w.hasDirectory path next = true ∧ Stands w t.root next := by
  obtain ⟨hslash, hne⟩ := Component.ofName_plain title
  have hpath := File.Tree.join_ne_empty h.ne_empty (File.Tree.isAbsolute_eq_false hslash)
  have hkeeps := (w.files s).createDirectories_keeps (Path.join t.root (Component.ofName title))
  rw [Trial.scratchDir, World.createDirectories] at hdir
  rcases hcreate : (w.files s).createDirectories (Path.join t.root (Component.ofName title)) with
    ⟨files, _ | _⟩
  all_goals
    rw [hcreate] at hdir hkeeps
    cases hdir
  have hhome : w.home (w.setFiles files s) = w.home s := by
    rw [World.home, hset]
    exact hkeeps.workingDir
  refine ⟨rfl, ?_, ⟨?_, ?_, hhome ▸ h.ground⟩⟩
  · rw [World.hasDirectory, hset]
    exact File.Tree.createDirectories_made h.rooted hpath hcreate
  · rw [hset]
    exact h.rooted.keeps hkeeps.toGrows
  · rw [World.hasDirectory, hset]
    exact hkeeps.toGrows.isDirectory h.there

theorem Stands.removed (hset : ∀ files s, w.files (w.setFiles files s) = files)
    (h : Stands w root s) (below : Place) :
    (w.files (w.removeDirectory root s)).root.at?
      (Pathname.place root (w.home s) ++ below) = none := by
  obtain ⟨above, name, htarget⟩ := h.ground.named
  have hne : Pathname.place root (w.home s) ≠ [] := by
    rw [Pathname.place, htarget, File.destination]
    simp
  rw [World.removeDirectory, hset, File.Tree.removeAll_eq h.rooted htarget h.there]
  exact (w.files s).root.at?_put_none hne below

theorem Stands.above_removed (hset : ∀ files s, w.files (w.setFiles files s) = files)
    (h : Stands w root s) : (w.files (w.removeDirectory root s)).DirAt
      (Pathname.place root (w.home s)).dropLast := by
  obtain ⟨above, name, htarget⟩ := h.ground.named
  have hplace : Pathname.place root (w.home s) = above ++ [name] := by
    rw [Pathname.place, htarget]
    rfl
  obtain ⟨-, -, entries, hentries⟩ := (File.Tree.isDirectory_iff h.rooted).1 h.there
  have hdirectory : (w.files s).DirAt above := by
    have hinner : (w.files s).root.at? (above ++ [name]) = some (.directory entries) :=
      hplace ▸ hentries
    rw [File.Entry.at?_append] at hinner
    obtain ⟨e, he, hbelow⟩ := Option.bind_eq_some_iff.1 hinner
    obtain ⟨entries', rfl⟩ := File.Entry.exists_entries (File.Tree.isDirectory_of_at? hbelow rfl)
    exact ⟨entries', he⟩
  have hapart : ¬above ++ [name] <+: above := fun hprefix => by simpa using hprefix.length_le
  rw [World.removeDirectory, hset, File.Tree.removeAll_eq h.rooted htarget h.there]
  change File.Tree.DirAt _ (Pathname.place root (w.home s)).dropLast
  have hsame : Pathname.place root (w.files s).workingDir = above ++ [name] := hplace
  rw [hplace, List.dropLast_concat, hsame]
  exact (File.Tree.dirAt_put_none hapart).2 hdirectory

end Stands

/-! ## A directory in the course of a test -/

namespace Course

/-- The directory of a test stands as long as the test goes on. -/
theorem stands_of_run (hw : w.Orderly ours ended) {name : String} {config : Config} {s₀ s : σ}
    {t : Trial σ} (hrooted : (w.files s₀).Rooted) (hbegin : begin_ w name config s₀ = (.ok t, s))
    {acts : List Act} (hacts : Allows w { trial := t, state := s } acts) (hroot : ours t.root)
    (hours : ∀ path ∈ (run w { trial := t, state := s } acts).made, ours path)
    (hrunning : (run w { trial := t, state := s } acts).trial.running = true) :
    (run w { trial := t, state := s } acts).trial.root = t.root ∧
      Stands w t.root (run w { trial := t, state := s } acts).state := by
  obtain ⟨hstanding, hbegun⟩ := standing_of_begin hw hrooted hbegin hroot
  have hsound := (hstanding.sound (.inl (.inl hbegun))).run hw hacts hours
  have hdirectories := (hsound.standing (.inl (.inl hrunning))).directories
  have hsame := (same_run (w := w) { trial := t, state := s } acts).1
  refine ⟨hsame, hdirectories.rooted, ?_, ?_⟩
  · exact hsame ▸ hdirectories.base
  · exact hsame ▸ hdirectories.ground

/-- A directory that a running test makes for a name lies in the directory of the test, under a
component that is ordinary, and is gone with it, unless the name is one of the two of dots that are
no ordinary components. Under these it is the directory of the test itself, or the one above it,
which stays when that of the test is removed. -/
theorem scratchDir_of_run (hw : w.Orderly ours ended) {name : String} {config : Config} {s₀ s : σ}
    {t : Trial σ} (hrooted : (w.files s₀).Rooted) (hbegin : begin_ w name config s₀ = (.ok t, s))
    {acts : List Act} (hacts : Allows w { trial := t, state := s } acts) (hroot : ours t.root)
    (hours : ∀ path ∈ (run w { trial := t, state := s } acts).made, ours path)
    (hrunning : (run w { trial := t, state := s } acts).trial.running = true)
    {title path : String} {next : σ}
    (hdir : (run w { trial := t, state := s } acts).trial.scratchDir w title
      (run w { trial := t, state := s } acts).state = (.ok path, next)) :
    (∀ text, Component.Ordinary (Component.ofName text) ↔ text ≠ "." ∧ text ≠ "..") ∧
    path = Path.join t.root (Component.ofName title) ∧
    w.hasDirectory path next = true ∧ w.hasDirectory t.root next = true ∧
    (title ≠ "." → title ≠ ".." →
      Pathname.target path (w.home next) =
        (Pathname.place t.root (w.home next), some (Utf8.encode (Component.ofName title))) ∧
      ¬Pathname.place path (w.home next) <+: Pathname.place t.root (w.home next) ∧
      ∀ later, Stands w t.root later → w.home later = w.home next →
        (w.files (w.removeDirectory t.root later)).root.at?
          (Pathname.place path (w.home next)) = none) ∧
    (title = "." → Pathname.place path (w.home next) = Pathname.place t.root (w.home next)) ∧
    (title = ".." →
      Pathname.place path (w.home next) = (Pathname.place t.root (w.home next)).dropLast ∧
      ∀ later, Stands w t.root later → w.home later = w.home next →
        (w.files (w.removeDirectory t.root later)).DirAt
          (Pathname.place path (w.home next))) := by
  have hset := hw.files_setFiles
  obtain ⟨hsame, hstands⟩ := stands_of_run hw hrooted hbegin hacts hroot hours hrunning
  rw [← hsame] at hstands
  obtain ⟨rfl, hthere, hnext⟩ := scratchDir_there hset hstands hdir
  rw [hsame] at hthere hnext ⊢
  have htarget := target_named hnext title
  refine ⟨Component.ordinary_ofName_iff, rfl, hthere, hnext.there, fun hhere hup => ?_, ?_, ?_⟩
  · rw [if_neg hhere, if_neg hup] at htarget
    have hplace : Pathname.place (Path.join t.root (Component.ofName title)) (w.home next) =
        Pathname.place t.root (w.home next) ++ [Utf8.encode (Component.ofName title)] := by
      rw [Pathname.place, htarget]
      rfl
    refine ⟨htarget, fun habove => ?_, fun later hlater hsamehome => ?_⟩
    · have hlength := habove.length_le
      rw [hplace] at hlength
      simp at hlength
    · rw [hplace, ← hsamehome]
      exact hlater.removed hset _
  · rintro rfl
    rw [if_pos rfl] at htarget
    rw [Pathname.place, htarget]
    exact List.append_nil _
  · rintro rfl
    rw [if_neg (by decide), if_pos rfl] at htarget
    have hplace : Pathname.place (Path.join t.root (Component.ofName "..")) (w.home next) =
        (Pathname.place t.root (w.home next)).dropLast := by
      rw [Pathname.place, htarget]
      exact List.append_nil _
    refine ⟨hplace, fun later hlater hsamehome => ?_⟩
    rw [hplace, ← hsamehome]
    exact hlater.above_removed hset

end Course

/-! ## The two names of dots -/

namespace Bench

/-- A test that makes a directory of a name as soon as it has begun, the path of that directory, and
what is there then. -/
def named (title : String) : Option (Trial Bench × String × Bench) :=
  match begin_ world "test" {} {} with
  | (.error _, _) => none
  | (.ok t, s) =>
    match t.scratchDir world title s with
    | (.error _, _) => none
    | (.ok path, next) => some (t, path, next)

theorem exists_of_named {title path : String} {t : Trial Bench} {next : Bench}
    (h : named title = some (t, path, next)) :
    ∃ s, begin_ world "test" {} {} = (.ok t, s) ∧
      t.scratchDir world title s = (.ok path, next) := by
  unfold named at h
  split at h
  · cases h
  · next s hbegin =>
    split at h
    · cases h
    · next hdir =>
      cases h
      exact ⟨s, hbegin, hdir⟩

theorem scratchDir_of_run_data : ∃ t path next, named "data" = some (t, path, next) ∧
    Pathname.target path (world.home next) =
      (Pathname.place t.root (world.home next), some (Utf8.encode "data")) ∧
    (world.files (world.removeDirectory t.root next)).root.at?
      (Pathname.place path (world.home next)) = none := by
  have hmade : ((named "data").any fun made => made.1.running) = true := by decide +kernel
  obtain ⟨⟨t, path, next⟩, hnamed, hrunning⟩ := (Option.any_eq_true _ _).1 hmade
  obtain ⟨s, hbegin, hdir⟩ := exists_of_named hnamed
  have hrooted : (world.files {}).Rooted := ⟨[], rfl⟩
  have hnothing : Course.Allows world { trial := t, state := s } [] := trivial
  obtain ⟨-, -, -, -, hchild, -⟩ := Course.scratchDir_of_run orderly hrooted hbegin hnothing trivial
    (fun _ _ => trivial) hrunning hdir
  obtain ⟨htarget, -, hgone⟩ := hchild (by decide) (by decide)
  have hbefore := (Course.stands_of_run orderly hrooted hbegin hnothing trivial
    (fun _ _ => trivial) hrunning).2
  obtain ⟨-, -, hstands⟩ := scratchDir_there orderly.files_setFiles hbefore hdir
  exact ⟨t, path, next, hnamed, htarget, hgone next hstands rfl⟩

/-- The directory of the name of two dots is the one in which the test has its own. -/
theorem scratchDir_above : ¬Component.Ordinary (Component.ofName "..") ∧
    ∃ t path next, named ".." = some (t, path, next) ∧
      Pathname.place path [] = Pathname.place "/tmp/cmdtest" [] ∧
      Pathname.place path [] <+: Pathname.place t.root [] ∧
      (world.files (world.removeDirectory t.root next)).contains t.root = false ∧
      (world.files (world.removeDirectory t.root next)).isDirectory "/tmp/cmdtest" = true := by
  have hup : ¬Component.Ordinary (Component.ofName "..") := fun hordinary =>
    ((Component.ordinary_ofName_iff "..").1 hordinary).2 rfl
  have hmade : ((named "..").any fun (t, path, next) =>
      let files := world.files (world.removeDirectory t.root next)
      Pathname.place path [] == Pathname.place "/tmp/cmdtest" [] &&
        (Pathname.place path []).isPrefixOf (Pathname.place t.root []) &&
        !files.contains t.root && files.isDirectory "/tmp/cmdtest") = true := by
    decide +kernel
  obtain ⟨⟨t, path, next⟩, hnamed, hplaces⟩ := (Option.any_eq_true _ _).1 hmade
  simp only [Bool.and_eq_true, Bool.not_eq_true', beq_iff_eq, List.isPrefixOf_iff_prefix] at hplaces
  obtain ⟨⟨⟨hplace, habove⟩, hgone⟩, hthere⟩ := hplaces
  exact ⟨hup, t, path, next, hnamed, hplace, habove, hgone, hthere⟩

end Bench

end Trial
end DaemonDialogue
