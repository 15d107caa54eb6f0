import DaemonDialogue.Proofs.File.Way

/-!
# Directories made and removed

A directory that is made is not on the way to any that was there, and one that is removed takes
along only what leads through it. Where a directory is there already, none is made.
-/

namespace DaemonDialogue.File.Tree

variable {t t' : Tree}

/-! ## Making -/

/-- What a directory that is made changes: it is there, it was not on the way to any other, and no
other is there for it that does not lead through it. -/
structure Made (t t' : Tree) (path : Pathname) : Prop extends Keeps t t' where
  ground : path.Ground t.workingDir
  there : t'.isDirectory path = true
  fresh : ∀ other, t.isDirectory other = true →
    ¬Pathname.Through other (path.place t.workingDir) t.workingDir
  others : ∀ other, t'.isDirectory other = true →
    t.isDirectory other = true ∨ Pathname.Through other (path.place t.workingDir) t.workingDir

theorem dirAt_put_directory {place other : Place}
    (hother : (t.put place (some (.directory []))).DirAt other) :
    t.DirAt other ∨ place <+: other := by
  by_cases hplace : place <+: other
  · exact .inr hplace
  · left
    have hput : (t.put place (some (.directory []))).root =
        t.root.put place (some (.directory [])) := rfl
    rw [DirAt, hput] at hother
    rcases t.root.at?_put_elsewhere hplace (some (.directory [])) with
      ⟨-, hnone⟩ | ⟨f, f', hf, hf', hstays⟩
    · rw [hnone] at hother
      simp at hother
    · obtain ⟨entries, hentries⟩ := hother
      rw [hentries] at hf'
      cases hf'
      obtain ⟨entries', rfl⟩ := Entry.exists_entries (hstays.isDirectory_eq.symm.trans rfl)
      exact ⟨entries', hf⟩

theorem isDirectory_put_directory (h : t.Rooted) {place : Place} (hfree : t.root.at? place = none)
    {other : Pathname} (hother : (t.put place (some (.directory []))).isDirectory other = true) :
    t.isDirectory other = true ∨ other.Through place t.workingDir := by
  have hrooted : (t.put place (some (.directory []))).Rooted := h.keeps (grows_put hfree _)
  obtain ⟨hfits, hvisited, hplace⟩ := (isDirectory_iff hrooted).1 hother
  by_cases hthrough : other.Through place t.workingDir
  · exact .inr hthrough
  · obtain ⟨havoids, havoids'⟩ := Pathname.not_through_iff.1 hthrough
    refine .inl ((isDirectory_iff h).2 ⟨hfits, fun q hq => ?_, ?_⟩)
    · exact (dirAt_put_directory (hvisited q hq)).resolve_right (havoids q hq)
    · exact (dirAt_put_directory hplace).resolve_right havoids'

theorem not_through_of_free (h : t.Rooted) {place : Place} (hfree : t.root.at? place = none)
    {other : Pathname} (hother : t.isDirectory other = true) :
    ¬other.Through place t.workingDir := by
  obtain ⟨-, hvisited, hplace⟩ := (isDirectory_iff h).1 hother
  exact Pathname.not_through_iff.2 ⟨fun q hq => not_below_free hfree (hvisited q hq),
    not_below_free hfree hplace⟩

theorem createDirectory_made (h : t.Rooted) {path : Pathname}
    (hmade : t.createDirectory path = .ok t') : t.Made t' path := by
  have hkeeps := createDirectory_keeps hmade
  obtain ⟨above, name, slashed, hspot, rfl⟩ := createDirectory_eq_ok hmade
  have hfree := has_of_locate hspot
  obtain ⟨htarget, hground⟩ := ground_of_free h hspot
  have hplace : path.place t.workingDir = above ++ [name] := by
    rw [Pathname.place, htarget]
    rfl
  obtain ⟨entries, hentries⟩ := h.exists_directory hspot
  have hlocate := (locate_grows (grows_put hfree (.directory [])) hspot).2
  have hnew : (t.put (above ++ [name]) (some (.directory []))).root.at? (above ++ [name]) =
      some (.directory []) := Entry.at?_put_some hentries name _
  rw [seen, hnew] at hlocate
  refine ⟨hkeeps, hground, ?_, fun other hother => ?_, fun other hother => ?_⟩
  · rw [isDirectory, find_named hlocate (by simp [Entry.isDirectory])]
    rfl
  · rw [hplace]
    exact not_through_of_free h hfree hother
  · rw [hplace]
    exact isDirectory_put_directory h hfree hother

theorem createDirectory_there {path : Pathname} (hpath : t.isDirectory path = true) :
    t.createDirectory path = .error .exists_ := by
  rw [isDirectory] at hpath
  cases hfind : t.find path with
  | error fault =>
    rw [hfind] at hpath
    cases hpath
  | ok e =>
    rcases exists_spot hfind with ⟨place, hlocate⟩ | ⟨above, name, slashed, hlocate, -⟩
    all_goals
      rw [createDirectory, hlocate]
      rfl

theorem ensureDirectory_there {path : Pathname} (hpath : t.isDirectory path = true) :
    t.ensureDirectory path = .ok t := by
  rw [ensureDirectory, createDirectory_there hpath]
  exact if_pos hpath

theorem ne_empty_of_isDirectory (h : t.Rooted) {path : String} (hpath : t.isDirectory path = true) :
    path ≠ "" := by
  rintro rfl
  exact ((isDirectory_iff h).1 hpath).1.nonempty rfl

theorem createDirectories_there (h : t.Rooted) {path : String} (hpath : t.isDirectory path = true) :
    t.createDirectories path = (t, .ok ()) := by
  rw [createDirectories, createChain, if_neg (by simpa using ne_empty_of_isDirectory h hpath),
    ensureDirectory_there hpath]

/-- A walk misses nothing if the directories that it goes through are there. -/
theorem walk_ne_notFound {slashed : Bool} {trail : Trail} (h : t.Along trail) {names : List Name}
    (hvisited : ∀ q ∈ visited (placeOf trail) names, t.DirAt q) :
    t.walk slashed trail names ≠ .error .notFound := by
  induction names generalizing trail with
  | nil => simp [walk]
  | cons name rest ih =>
    rw [visited] at hvisited
    unfold walk
    split_ifs at hvisited ⊢ with hdot hup hlong hrest hrest
    · exact ih h hvisited
    · exact ih h.drop (placeOf_drop trail ▸ hvisited)
    · simp
    · simp
    · rw [hrest]
      simp
    · obtain ⟨⟨entries, hentries⟩, hvisited⟩ := List.forall_mem_cons.1 hvisited
      obtain ⟨next, more, rfl⟩ := List.exists_cons_of_ne_nil hrest
      rw [at?_child h] at hentries
      rw [hentries]
      have halong : t.Along ((name, .directory entries) :: trail) := ⟨hentries, h⟩
      have hnext := ih halong
      rw [placeOf_cons] at hnext
      exact hnext hvisited

theorem locate_ne_notFound (h : t.Rooted) {path : Pathname} (hpath : path.bytes ≠ [])
    (hvisited : ∀ q ∈ path.visited t.workingDir, t.DirAt q) :
    t.locate path ≠ .error .notFound := by
  obtain ⟨entries, hentries⟩ := h
  have hroot : t.Along [] := trivial
  rw [Pathname.visited, Pathname.start] at hvisited
  unfold locate
  split_ifs with hnul hempty hlong habsolute
  · simp
  · exact absurd (List.isEmpty_iff.1 hempty) hpath
  · simp
  · rw [if_pos habsolute] at hvisited
    exact walk_ne_notFound hroot hvisited
  · obtain ⟨trail, htrail, halong⟩ := exists_trailTo hroot hentries
    have hplace : placeOf trail = t.workingDir := placeOf_trailTo htrail
    rw [if_neg habsolute, ← hplace] at hvisited
    rw [htrail]
    exact walk_ne_notFound halong hvisited

theorem createDirectory_ne_notFound {path : Pathname} (h : t.locate path ≠ .error .notFound) :
    t.createDirectory path ≠ .error .notFound := by
  intro hcreate
  rw [createDirectory] at hcreate
  cases hlocate : t.locate path with
  | error fault =>
    rw [hlocate] at hcreate h
    cases hcreate
    exact h rfl
  | ok spot =>
    rw [hlocate] at hcreate
    rcases spot with _ | ⟨above, name, _ | e, slashed⟩
    all_goals cases hcreate

/-- If nothing above a directory is missing, it is the only one that can be made. -/
theorem createDirectories_cases (h : t.Rooted) {path : String} (hpath : path ≠ "")
    (hvisited : ∀ q ∈ Pathname.visited path t.workingDir, t.DirAt q) :
    (∃ t', t.createDirectories path = (t', .ok ()) ∧ t.Made t' path) ∨
      t.createDirectories path = (t, .ok ()) ∧ t.isDirectory path = true ∨
      ∃ fault, t.createDirectories path = (t, .error fault) := by
  have hbytes : Utf8.encode path ≠ [] := fun hnil => hpath (Utf8.encode_eq_nil_iff.1 hnil)
  have hfound := createDirectory_ne_notFound (locate_ne_notFound h hbytes hvisited)
  by_cases hthere : t.isDirectory path = true
  · exact .inr (.inl ⟨createDirectories_there h hthere, hthere⟩)
  cases hcreate : t.createDirectory path with
  | ok t' =>
    have hensure : t.ensureDirectory path = .ok t' := by rw [ensureDirectory, hcreate]
    refine .inl ⟨t', ?_, createDirectory_made h hcreate⟩
    rw [createDirectories, createChain, if_neg (by simpa using hpath), hensure]
  | error fault =>
    have hensure : t.ensureDirectory path = .error fault := by
      rw [ensureDirectory, hcreate]
      exact if_neg hthere
    refine .inr (.inr ⟨fault, ?_⟩)
    rw [createDirectories, createChain, if_neg (by simpa using hpath), hensure]
    cases fault with
    | notFound => exact absurd hcreate hfound
    | _ => rfl

theorem ensureDirectory_made (h : t.Rooted) {path : Pathname}
    (hmade : t.ensureDirectory path = .ok t') : t'.isDirectory path = true := by
  rcases ensureDirectory_eq_ok hmade with hcreate | ⟨rfl, hthere⟩
  · exact (createDirectory_made h hcreate).there
  · exact hthere

theorem createDirectories_made (h : t.Rooted) {path : String} (hpath : path ≠ "")
    (hmade : t.createDirectories path = (t', .ok ())) : t'.isDirectory path = true := by
  rw [createDirectories, createChain, if_neg (by simpa using hpath)] at hmade
  split at hmade
  · next made hensure =>
    cases hmade
    exact ensureDirectory_made h hensure
  · have hkeeps := createChain_keeps (Path.ancestors path) t
    split at hmade
    · cases hmade
    · next made habove =>
      rw [habove] at hkeeps
      split at hmade
      · next hensure =>
        cases hmade
        exact ensureDirectory_made (h.keeps hkeeps.toGrows) hensure
      · cases hmade
  · cases hmade

/-- Where directories are made, a path comes to a file only if the file was there, and so were the
directories on the way that lie above it. If the path goes through no other ones that were missing,
it led to the file before. -/
theorem read_ne_notFound_of_made (h : t.Rooted) (hkeeps : t.Keeps t') {path : Pathname}
    (hway : ∀ q ∈ path.visited t.workingDir, q <+: path.place t.workingDir ∨ t.DirAt q)
    (hfile : t'.isFile path = true) : t.read path ≠ .error .notFound := by
  obtain ⟨id, hfind⟩ := exists_file hfile
  obtain ⟨hfits, hvisited, hplace⟩ := find_place (h.keeps hkeeps.toGrows) hfind
  rw [hkeeps.workingDir] at hvisited hplace
  have hold : t.root.at? (path.place t.workingDir) = some (.file id) :=
    (hkeeps.added _ _ hplace).resolve_left Bool.false_ne_true
  have hthere : ∀ q ∈ path.visited t.workingDir, t.DirAt q := by
    intro q hq
    rcases hway q hq with ⟨below, hbelow⟩ | hthere
    case inr => exact hthere
    rw [← hbelow, Entry.at?_append] at hold
    obtain ⟨e, he, -⟩ := Option.bind_eq_some_iff.1 hold
    obtain ⟨e', he', hstays⟩ := hkeeps.root q e he
    obtain ⟨entries, hentries⟩ := hvisited q hq
    rw [he'] at hentries
    obtain rfl := Option.some.inj hentries
    obtain ⟨entries', rfl⟩ := Entry.exists_entries (hstays.isDirectory_eq.symm.trans rfl)
    exact ⟨entries', he⟩
  have hlocate := (locate_eq_ok h).2 ⟨hfits, hthere, rfl⟩
  rw [Pathname.place] at hold
  rcases htarget : path.target t.workingDir with ⟨above, _ | name⟩
  all_goals
    rw [htarget] at hold hlocate
    rw [destination] at hold
    rw [spot] at hlocate
  · rw [Option.toList_none, List.append_nil] at hold
    rw [hold] at hlocate
    rw [read_file (find_unnamed hlocate)]
    simp
  · rw [Option.toList_some] at hold
    rw [hold] at hlocate
    cases hslashed : path.bytes.getLast? == some slash with
    | false =>
      rw [hslashed] at hlocate
      rw [read_file (find_named hlocate rfl)]
      simp
    | true =>
      rw [hslashed] at hlocate
      rw [read, find, resolve, hlocate]
      intro hread
      cases hread

/-! ## Removing -/

theorem dirAt_put_none {place other : Place} (h : ¬place <+: other) :
    (t.put place none).DirAt other ↔ t.DirAt other := by
  have hput : (t.put place none).root = t.root.put place none := rfl
  rw [DirAt, DirAt, hput]
  rcases t.root.at?_put_elsewhere h none with ⟨hnone, hnone'⟩ | ⟨f, f', hf, hf', hstays⟩
  · rw [hnone, hnone']
  · have hdirectory (e : Entry) :
        (∃ entries, some e = some (Entry.directory entries)) ↔ e.isDirectory = true := by
      cases e <;> simp [Entry.isDirectory]
    rw [hf, hf', hdirectory, hdirectory, hstays.isDirectory_eq]

theorem not_dirAt_put_none {place other : Place} (hne : place ≠ []) (h : place <+: other) :
    (t.put place none).root.at? other = none := by
  obtain ⟨below, rfl⟩ := h
  exact t.root.at?_put_none hne below

theorem Rooted.removed_elsewhere (h : t.Rooted) {place : Place} (hapart : ¬place <+: t.workingDir) :
    (t.put place none).Rooted :=
  (dirAt_put_none hapart).2 h

/-- What is removed matters only to the paths that lead there or through there. -/
theorem isDirectory_put_none (h : t.Rooted) {place : Place} (hne : place ≠ [])
    (hroot : ¬place <+: t.workingDir) {path : Pathname} :
    (t.put place none).isDirectory path = true ↔
      t.isDirectory path = true ∧ ¬path.Through place t.workingDir := by
  have hrooted := h.removed_elsewhere hroot
  have hgone {q : Place} (hq : (t.put place none).DirAt q) : ¬place <+: q := by
    intro hbelow
    obtain ⟨entries, hentries⟩ := hq
    rw [not_dirAt_put_none hne hbelow] at hentries
    cases hentries
  rw [isDirectory_iff h, isDirectory_iff hrooted, Pathname.not_through_iff]
  constructor
  · rintro ⟨hfits, hvisited, hplace⟩
    exact ⟨⟨hfits, fun q hq => (dirAt_put_none (hgone (hvisited q hq))).1 (hvisited q hq),
      (dirAt_put_none (hgone hplace)).1 hplace⟩, fun q hq => hgone (hvisited q hq), hgone hplace⟩
  · rintro ⟨⟨hfits, hvisited, hplace⟩, havoids, havoids'⟩
    exact ⟨hfits, fun q hq => (dirAt_put_none (havoids q hq)).2 (hvisited q hq),
      (dirAt_put_none havoids').2 hplace⟩

theorem removeAll_eq (h : t.Rooted) {path : Pathname} {above : Place} {name : Name}
    (htarget : path.target t.workingDir = (above, some name)) (hpath : t.isDirectory path = true) :
    t.removeAll path = t.put (path.place t.workingDir) none := by
  obtain ⟨hfits, hvisited, entries, hentries⟩ := (isDirectory_iff h).1 hpath
  have hlocate := (locate_eq_ok h).2 ⟨hfits, hvisited, rfl⟩
  rw [Pathname.place, htarget] at hentries ⊢
  rw [htarget, spot] at hlocate
  have hplace : t.root.at? (above ++ [name]) = some (.directory entries) := hentries
  rw [removeAll, hlocate, hplace]
  rfl

/-- What the removal of a directory changes: nothing is at its path, and no other directory is gone
that does not lead through it. -/
structure Removed (t t' : Tree) (path : Pathname) : Prop where
  rooted : t'.Rooted
  workingDir : t'.workingDir = t.workingDir
  gone : t'.contains path = false
  others : ∀ other, t'.isDirectory other = true ↔ t.isDirectory other = true ∧
    ¬Pathname.Through other (path.place t.workingDir) t.workingDir

/-- Nothing but a directory and what leads through it goes with it. -/
theorem removeAll_removed (h : t.Rooted) {path : Pathname} (hground : path.Ground t.workingDir)
    (hpath : t.isDirectory path = true) : t.Removed (t.removeAll path) path := by
  obtain ⟨above, name, htarget⟩ := hground.named
  have hne : path.place t.workingDir ≠ [] := by
    rw [Pathname.place, htarget, destination]
    simp
  have hrooted := h.removed_elsewhere hground.workingDir
  rw [removeAll_eq h htarget hpath]
  refine ⟨hrooted, rfl, ?_, fun other => isDirectory_put_none h hne hground.workingDir⟩
  by_contra hcontains
  obtain ⟨-, hthere⟩ := contains_place hrooted (Bool.eq_true_of_not_eq_false hcontains)
  exact hthere (not_dirAt_put_none hne List.prefix_rfl)

end DaemonDialogue.File.Tree
