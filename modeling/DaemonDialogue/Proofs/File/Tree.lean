import DaemonDialogue.File.Tree
import DaemonDialogue.Proofs.Lookup

/-!
# Growing trees

Where directories are made and a file is added, everything else stays: what is no directory as it
is, and a directory as a directory. So a path that leads somewhere leads to the same place in the
larger tree, and what was read there is read there still. What was added can be removed again.
-/

namespace DaemonDialogue.File

namespace Entry

/-- Is something still what it was, or still a directory? -/
def Stays (e e' : Entry) : Prop := e' = e ∨ e.isDirectory = true ∧ e'.isDirectory = true

theorem Stays.refl (e : Entry) : e.Stays e := .inl rfl

theorem Stays.trans {e e' e'' : Entry} (h : e.Stays e') (h' : e'.Stays e'') : e.Stays e'' := by
  rcases h with rfl | ⟨he, he'⟩
  · exact h'
  · rcases h' with rfl | ⟨-, he''⟩
    · exact .inr ⟨he, he'⟩
    · exact .inr ⟨he, he''⟩

theorem Stays.isDirectory_eq {e e' : Entry} (h : e.Stays e') : e'.isDirectory = e.isDirectory := by
  rcases h with rfl | ⟨he, he'⟩
  · rfl
  · rw [he, he']

theorem Stays.eq {e e' : Entry} (h : e.Stays e') (he : e.isDirectory = false) : e' = e := by
  rcases h with rfl | ⟨hdirectory, -⟩
  · rfl
  · rw [he] at hdirectory
    cases hdirectory

/-- Does everything within an entry stay? -/
def Grows (e e' : Entry) : Prop :=
  ∀ place f, e.at? place = some f → ∃ f', e'.at? place = some f' ∧ f.Stays f'

theorem Grows.refl (e : Entry) : e.Grows e := fun _ f h => ⟨f, h, .refl f⟩

theorem Grows.trans {e e' e'' : Entry} (h : e.Grows e') (h' : e'.Grows e'') : e.Grows e'' := by
  intro place f hf
  obtain ⟨f', hf', hstays⟩ := h place f hf
  obtain ⟨f'', hf'', hstays'⟩ := h' place f' hf'
  exact ⟨f'', hf'', hstays.trans hstays'⟩

theorem at?_append (e : Entry) (place below : Place) :
    e.at? (place ++ below) = (e.at? place).bind (·.at? below) := by
  induction place generalizing e with
  | nil => rfl
  | cons name rest ih =>
    rw [List.cons_append, at?, at?]
    cases e.child? name with
    | none => rfl
    | some f => exact ih f

/-! ## Putting and removing -/

theorem lookup_replaced (entries : List (Name × Entry)) (name : Name) (new : Option Entry)
    (other : Name) :
    (replaced entries name new).lookup other =
      if other = name then new else entries.lookup other := by
  cases new with
  | none => exact lookup_removed entries name other
  | some new =>
    rw [replaced, ← isSome_lookup]
    cases hfound : entries.lookup name with
    | some found =>
      rw [Option.isSome_some, if_pos rfl, lookup_renewed, hfound, Option.map_some]
    | none =>
      rw [Option.isSome_none, if_neg Bool.false_ne_true, List.lookup_append, lookup_cons_eq]
      split_ifs with hother
      · rw [hother, hfound, Option.none_or]
      · rw [List.lookup_nil, Option.or_none]

theorem child?_put (entries : List (Name × Entry)) (name : Name) (rest : Place)
    (new : Option Entry) (other : Name) :
    ((directory entries).put (name :: rest) new).child? other =
      if other = name then
        if rest = [] then new else (entries.lookup name).map (·.put rest new)
      else entries.lookup other := by
  cases rest with
  | nil => simp [put, child?, lookup_replaced]
  | cons next rest =>
    rw [put]
    · cases hlookup : entries.lookup name with
      | none =>
        simp only [child?, reduceCtorEq, if_false, Option.map_none]
        split_ifs with heq
        · rw [heq, hlookup]
        · rfl
      | some below => simp [child?, lookup_replaced]
    · simp

theorem exists_entries {e : Entry} (h : e.isDirectory = true) :
    ∃ entries, e = .directory entries := by
  cases e <;> first | exact ⟨_, rfl⟩ | cases h

theorem put_of_not_directory {e : Entry} (h : e.isDirectory = false) (name : Name) (rest : Place)
    (new : Option Entry) : e.put (name :: rest) new = e := by
  cases e with
  | directory entries => cases h
  | _ => cases rest <;> rfl

theorem isDirectory_put (e : Entry) (name : Name) (rest : Place) (new : Option Entry) :
    (e.put (name :: rest) new).isDirectory = e.isDirectory := by
  cases e with
  | directory entries =>
    cases rest with
    | nil => rfl
    | cons next rest =>
      rw [put]
      · cases entries.lookup name <;> rfl
      · simp
  | _ => cases rest <;> rfl

theorem at?_put_elsewhere (e : Entry) {place other : Place} (h : ¬place <+: other)
    (new : Option Entry) :
    (e.at? other = none ∧ (e.put place new).at? other = none) ∨
      ∃ f f', e.at? other = some f ∧ (e.put place new).at? other = some f' ∧ f.Stays f' := by
  induction place generalizing e other with
  | nil => exact absurd List.nil_prefix h
  | cons name rest ih =>
    have hsame (f : Option Entry) :
        (f = none ∧ f = none) ∨ ∃ g g', f = some g ∧ f = some g' ∧ g.Stays g' := by
      cases f with
      | none => exact .inl ⟨rfl, rfl⟩
      | some g => exact .inr ⟨g, g, rfl, rfl, .refl g⟩
    cases hdirectory : e.isDirectory with
    | false =>
      rw [put_of_not_directory hdirectory]
      exact hsame _
    | true =>
      obtain ⟨entries, rfl⟩ := exists_entries hdirectory
      rcases other with _ | ⟨next, below⟩
      · exact .inr ⟨_, _, rfl, rfl, .inr ⟨rfl, isDirectory_put _ name rest _⟩⟩
      · rw [at?, at?, child?_put, child?]
        by_cases hnext : next = name
        · subst hnext
          have hrest : ¬rest <+: below := fun hbelow => h (List.cons_prefix_cons.2 ⟨rfl, hbelow⟩)
          have hnil : rest ≠ [] := fun hnil => hrest (hnil ▸ List.nil_prefix)
          rw [if_pos rfl, if_neg hnil]
          cases entries.lookup next with
          | none => exact .inl ⟨rfl, rfl⟩
          | some old => exact ih old hrest
        · rw [if_neg hnext]
          exact hsame _

theorem at?_put_none (e : Entry) {place : Place} (h : place ≠ []) (below : Place) :
    (e.put place none).at? (place ++ below) = none := by
  induction place generalizing e with
  | nil => exact absurd rfl h
  | cons name rest ih =>
    cases hdirectory : e.isDirectory with
    | false =>
      rw [put_of_not_directory hdirectory, List.cons_append, at?]
      cases e <;> first | rfl | cases hdirectory
    | true =>
      obtain ⟨entries, rfl⟩ := exists_entries hdirectory
      rw [List.cons_append, at?, child?_put, if_pos rfl]
      by_cases hrest : rest = []
      · rw [if_pos hrest, Option.bind_none]
      · rw [if_neg hrest]
        cases entries.lookup name with
        | none => rfl
        | some old => exact ih old hrest

theorem at?_put_some {e : Entry} {above : Place} {entries : List (Name × Entry)}
    (h : e.at? above = some (.directory entries)) (name : Name) (new : Entry) :
    (e.put (above ++ [name]) (some new)).at? (above ++ [name]) = some new := by
  induction above generalizing e with
  | nil =>
    cases h
    rw [List.nil_append, at?, child?_put, if_pos rfl, if_pos rfl]
    rfl
  | cons first rest ih =>
    rw [at?] at h
    obtain ⟨old, hold, hbelow⟩ := Option.bind_eq_some_iff.1 h
    cases e with
    | directory outer =>
      rw [child?] at hold
      rw [List.cons_append, at?, child?_put, if_pos rfl, if_neg (by simp), hold]
      exact ih hbelow
    | _ => cases hold

theorem Grows.put {e e' : Entry} (hgrows : e.Grows e') {place : Place} (h : e.at? place = none)
    (new : Option Entry) : e.Grows (e'.put place new) := by
  intro other f hf
  obtain ⟨g, hg, hstays⟩ := hgrows other f hf
  have helsewhere : ¬place <+: other := by
    rintro ⟨below, rfl⟩
    rw [at?_append, h] at hf
    cases hf
  rcases e'.at?_put_elsewhere helsewhere new with ⟨hnone, -⟩ | ⟨g', f', hg', hf', hstays'⟩
  · rw [hnone] at hg
    cases hg
  · rw [hg] at hg'
    cases hg'
    exact ⟨f', hf', hstays.trans hstays'⟩

theorem grows_put {e : Entry} {place : Place} (h : e.at? place = none) (new : Entry) :
    e.Grows (e.put place (some new)) :=
  (Grows.refl e).put h (some new)

theorem eq_of_at?_put {e : Entry} {place : Place} (h : e.at? place = none) {new f : Entry}
    (hf : (e.put place (some new)).at? place = some f) : f = new := by
  induction place generalizing e with
  | nil => cases h
  | cons name rest ih =>
    cases e with
    | directory entries =>
      rw [at?, child?] at h
      rw [at?, child?_put, if_pos rfl] at hf
      by_cases hrest : rest = []
      · subst hrest
        cases hf
        rfl
      · rw [if_neg hrest] at hf
        obtain ⟨renewed, hrenewed, hf⟩ := Option.bind_eq_some_iff.1 hf
        obtain ⟨old, hold, rfl⟩ := Option.map_eq_some_iff.1 hrenewed
        rw [hold] at h
        exact ih h hf
    | _ =>
      rw [put_of_not_directory rfl, h] at hf
      cases hf

theorem at?_put_directory {e : Entry} {place : Place} (h : e.at? place = none) {other : Place}
    {f' : Entry} (hf' : (e.put place (some (.directory []))).at? other = some f') :
    f'.isDirectory = true ∨ e.at? other = some f' := by
  by_cases hother : place <+: other
  · obtain ⟨below, rfl⟩ := hother
    rw [at?_append] at hf'
    obtain ⟨new, hnew, hf'⟩ := Option.bind_eq_some_iff.1 hf'
    obtain rfl := eq_of_at?_put h hnew
    cases below with
    | nil =>
      cases hf'
      exact .inl rfl
    | cons name rest => cases hf'
  · rcases e.at?_put_elsewhere hother (some (.directory [])) with
      ⟨-, hnone⟩ | ⟨f, g, hf, hg, hstays⟩
    · rw [hnone] at hf'
      cases hf'
    · rw [hf'] at hg
      cases hg
      rcases hstays with rfl | ⟨-, hdirectory⟩
      · exact .inr hf
      · exact .inl hdirectory

end Entry

namespace Tree

/-- Does everything in a tree stay? -/
structure Grows (t t' : Tree) : Prop where
  root : t.root.Grows t'.root
  workingDir : t'.workingDir = t.workingDir

variable {t t' : Tree}

theorem Grows.refl (t : Tree) : t.Grows t := ⟨.refl _, rfl⟩

theorem Grows.trans {t'' : Tree} (h : t.Grows t') (h' : t'.Grows t'') : t.Grows t'' :=
  ⟨h.root.trans h'.root, h'.workingDir.trans h.workingDir⟩

theorem grows_put {place : Place} (h : t.root.at? place = none) (new : Entry) :
    t.Grows (t.put place (some new)) :=
  ⟨Entry.grows_put h new, rfl⟩

/-- Does everything in a tree stay, the contents of files included, and is nothing new but
directories? -/
structure Keeps (t t' : Tree) : Prop extends Grows t t' where
  contents : t'.contents = t.contents
  added : ∀ place e', t'.root.at? place = some e' →
    e'.isDirectory = true ∨ t.root.at? place = some e'

theorem Keeps.refl (t : Tree) : t.Keeps t := ⟨.refl t, rfl, fun _ _ h => .inr h⟩

theorem Keeps.trans {t'' : Tree} (h : t.Keeps t') (h' : t'.Keeps t'') : t.Keeps t'' := by
  refine ⟨h.toGrows.trans h'.toGrows, h'.contents.trans h.contents, fun place e hplace => ?_⟩
  rcases h'.added place e hplace with hdirectory | hplace'
  · exact .inl hdirectory
  · exact h.added place e hplace'

/-! ## Paths -/

/-- Is a trail one of the tree: is each of its entries in the one before it? -/
def Along (t : Tree) : Trail → Prop
  | [] => True
  | (name, e) :: rest => (t.current rest).child? name = some e ∧ t.Along rest

theorem placeOf_cons (name : Name) (e : Entry) (rest : Trail) :
    placeOf ((name, e) :: rest) = placeOf rest ++ [name] := by
  simp [placeOf]

theorem at?_placeOf {trail : Trail} (h : t.Along trail) :
    t.root.at? (placeOf trail) = some (t.current trail) := by
  induction trail with
  | nil => rfl
  | cons m rest ih =>
    obtain ⟨name, e⟩ := m
    obtain ⟨hchild, hrest⟩ := h
    rw [placeOf_cons, Entry.at?_append, ih hrest, Option.bind_some, Entry.at?,
      hchild]
    rfl

theorem at?_child {trail : Trail} (h : t.Along trail) (name : Name) :
    t.root.at? (placeOf trail ++ [name]) = (t.current trail).child? name := by
  rw [Entry.at?_append, at?_placeOf h, Option.bind_some, Entry.at?]
  cases (t.current trail).child? name <;> rfl

theorem Along.drop {trail : Trail} (h : t.Along trail) : t.Along (trail.drop 1) := by
  cases trail with
  | nil => trivial
  | cons m rest => exact h.2

/-- Trails to the same place, one in a tree and one in a larger tree. -/
structure Beside (t t' : Tree) (trail trail' : Trail) : Prop where
  along : t.Along trail
  along' : t'.Along trail'
  place : placeOf trail' = placeOf trail

/-- Is a spot as it is in a tree? -/
def Has (t : Tree) : Spot → Prop
  | .unnamed place e => t.root.at? place = some e
  | .named above name found _ => t.root.at? (above ++ [name]) = found

/-- A spot with what a tree has there. -/
def seen (t : Tree) : Spot → Spot
  | .unnamed place e => .unnamed place ((t.root.at? place).getD e)
  | .named above name _ slashed => .named above name (t.root.at? (above ++ [name])) slashed

theorem Beside.child (hgrows : t.Grows t') {trail trail' : Trail}
    (h : Beside t t' trail trail') {name : Name} {e : Entry}
    (he : (t.current trail).child? name = some e) :
    ∃ e', (t'.current trail').child? name = some e' ∧ e.Stays e' ∧
      Beside t t' ((name, e) :: trail) ((name, e') :: trail') := by
  rw [← at?_child h.along] at he
  obtain ⟨e', he', hstays⟩ := hgrows.root _ e he
  rw [← h.place] at he'
  have hchild := (at?_child h.along' name).symm.trans he'
  refine ⟨e', hchild, hstays, ⟨(at?_child h.along name).symm.trans he, h.along⟩,
    ⟨hchild, h.along'⟩, ?_⟩
  rw [placeOf_cons, placeOf_cons, h.place]

theorem Beside.drop {trail trail' : Trail} (h : Beside t t' trail trail') :
    Beside t t' (trail.drop 1) (trail'.drop 1) := by
  refine ⟨h.along.drop, h.along'.drop, ?_⟩
  have hplace := h.place
  rw [placeOf, placeOf, List.reverse_inj] at hplace ⊢
  rw [List.map_drop, List.map_drop, hplace]

theorem walk_grows (hgrows : t.Grows t') {slashed : Bool} {trail trail' : Trail}
    (h : Beside t t' trail trail') {names : List Name} {spot : Spot}
    (hwalk : t.walk slashed trail names = .ok spot) :
    t.Has spot ∧ t'.walk slashed trail' names = .ok (t'.seen spot) := by
  induction names generalizing trail trail' with
  | nil =>
    cases hwalk
    refine ⟨at?_placeOf h.along, ?_⟩
    rw [walk, seen, ← h.place, at?_placeOf h.along', Option.getD_some]
  | cons name rest ih =>
    unfold walk at hwalk ⊢
    split_ifs at hwalk ⊢ with hdot hup hlong
    · exact ih h hwalk
    · exact ih h.drop hwalk
    · cases rest with
      | nil =>
        cases hwalk
        refine ⟨at?_child h.along name, ?_⟩
        rw [seen, ← h.place, at?_child h.along']
      | cons next rest =>
        cases hchild : (t.current trail).child? name with
        | none =>
          rw [hchild] at hwalk
          cases hwalk
        | some e =>
          obtain ⟨e', hchild', hstays, hbeside⟩ := h.child hgrows hchild
          rw [hchild] at hwalk
          rw [hchild']
          cases e with
          | directory entries =>
            obtain ⟨entries', rfl⟩ := Entry.exists_entries hstays.isDirectory_eq
            exact ih hbeside hwalk
          | _ => simp at hwalk

theorem trailTo_grows (hgrows : t.Grows t') {trail trail' : Trail}
    (h : Beside t t' trail trail') {place : Place} {last : Trail}
    (hlast : t.trailTo trail place = some last) :
    ∃ last', t'.trailTo trail' place = some last' ∧ Beside t t' last last' := by
  induction place generalizing trail trail' with
  | nil =>
    cases hlast
    exact ⟨trail', rfl, h⟩
  | cons name rest ih =>
    rw [trailTo] at hlast
    obtain ⟨e, he, hlast⟩ := Option.bind_eq_some_iff.1 hlast
    obtain ⟨e', he', -, hbeside⟩ := h.child hgrows he
    obtain ⟨last', hlast', hend⟩ := ih hbeside hlast
    refine ⟨last', ?_, hend⟩
    rw [trailTo, he']
    exact hlast'

theorem locate_grows (hgrows : t.Grows t') {path : Pathname} {spot : Spot}
    (h : t.locate path = .ok spot) : t.Has spot ∧ t'.locate path = .ok (t'.seen spot) := by
  have hroot : Beside t t' [] [] := ⟨trivial, trivial, rfl⟩
  unfold locate at h ⊢
  split_ifs at h ⊢ with hnul hempty hlong habsolute
  · exact walk_grows hgrows hroot h
  · rw [hgrows.workingDir]
    cases htrail : t.trailTo [] t.workingDir with
    | none =>
      rw [htrail] at h
      cases h
    | some trail =>
      obtain ⟨trail', htrail', hbeside⟩ := trailTo_grows hgrows hroot htrail
      rw [htrail] at h
      rw [htrail']
      exact walk_grows hgrows hbeside h

theorem has_of_locate {path : Pathname} {spot : Spot} (h : t.locate path = .ok spot) :
    t.Has spot :=
  (locate_grows (.refl t) h).1

/-! ## The directory of a name -/

/-- Is there a directory where relative paths start? -/
def Rooted (t : Tree) : Prop := ∃ entries, t.root.at? t.workingDir = some (.directory entries)

theorem Rooted.keeps (h : t.Rooted) (hgrows : t.Grows t') : t'.Rooted := by
  obtain ⟨entries, hentries⟩ := h
  obtain ⟨e, he, hstays⟩ := hgrows.root _ _ hentries
  obtain ⟨entries', rfl⟩ := Entry.exists_entries hstays.isDirectory_eq
  exact ⟨entries', hgrows.workingDir ▸ he⟩

/-- What is removed without being a directory is not where relative paths start. -/
theorem Rooted.put_none (h : t.Rooted) {place : Place} {e : Entry}
    (he : t.root.at? place = some e) (hfile : e.isDirectory = false) :
    (t.put place none).Rooted := by
  obtain ⟨entries, hentries⟩ := h
  have helsewhere : ¬place <+: t.workingDir := by
    rintro ⟨below, hbelow⟩
    rw [← hbelow, Entry.at?_append, he, Option.bind_some] at hentries
    cases e with
    | directory inner => cases hfile
    | _ => cases below <;> cases hentries
  rcases t.root.at?_put_elsewhere helsewhere none with ⟨hnone, -⟩ | ⟨f, f', hf, hf', hstays⟩
  · cases hnone.symm.trans hentries
  · cases hf.symm.trans hentries
    obtain ⟨entries', rfl⟩ := Entry.exists_entries hstays.isDirectory_eq
    exact ⟨entries', hf'⟩

theorem Along.isDirectory_drop {trail : Trail} (h : t.Along trail)
    (hlast : (t.current trail).isDirectory = true) :
    (t.current (trail.drop 1)).isDirectory = true := by
  rcases trail with _ | ⟨⟨name, e⟩, rest⟩
  · exact hlast
  · rw [List.drop_succ_cons, List.drop_zero]
    have hchild := h.1
    cases hcurrent : t.current rest with
    | directory entries => rfl
    | _ =>
      rw [hcurrent] at hchild
      cases hchild

theorem exists_directory_of_walk {slashed slashed' : Bool} {trail : Trail} {names : List Name}
    {above : Place} {name : Name} {found : Option Entry} (htrail : t.Along trail)
    (hlast : (t.current trail).isDirectory = true)
    (h : t.walk slashed trail names = .ok (.named above name found slashed')) :
    ∃ entries, t.root.at? above = some (.directory entries) := by
  induction names generalizing trail with
  | nil => cases h
  | cons first rest ih =>
    unfold walk at h
    split_ifs at h with hdot hup hlong
    · exact ih htrail hlast h
    · exact ih htrail.drop (htrail.isDirectory_drop hlast) h
    · cases rest with
      | nil =>
        cases h
        obtain ⟨entries, hentries⟩ := Entry.exists_entries hlast
        exact ⟨entries, hentries ▸ at?_placeOf htrail⟩
      | cons next rest =>
        cases hchild : (t.current trail).child? first with
        | none =>
          rw [hchild] at h
          cases h
        | some e =>
          rw [hchild] at h
          cases e with
          | directory entries =>
            have halong : t.Along ((first, .directory entries) :: trail) := ⟨hchild, htrail⟩
            exact ih halong rfl h
          | _ => simp at h

theorem placeOf_trailTo {trail last : Trail} {place : Place}
    (h : t.trailTo trail place = some last) : placeOf last = placeOf trail ++ place := by
  induction place generalizing trail with
  | nil =>
    cases h
    rw [List.append_nil]
  | cons name rest ih =>
    rw [trailTo] at h
    obtain ⟨e, -, h⟩ := Option.bind_eq_some_iff.1 h
    rw [ih h, placeOf_cons, List.append_assoc, List.singleton_append]

theorem isDirectory_of_at? {e f : Entry} {place : Place} (h : e.at? place = some f)
    (hf : f.isDirectory = true) : e.isDirectory = true := by
  cases place with
  | nil =>
    cases h
    exact hf
  | cons name rest => cases e <;> first | rfl | cases h

theorem Rooted.exists_directory (h : t.Rooted) {path : Pathname} {above : Place} {name : Name}
    {found : Option Entry} {slashed : Bool}
    (hlocate : t.locate path = .ok (.named above name found slashed)) :
    ∃ entries, t.root.at? above = some (.directory entries) := by
  obtain ⟨entries, hentries⟩ := h
  unfold locate at hlocate
  split_ifs at hlocate
  · have hroot : t.root.isDirectory = true := isDirectory_of_at? hentries rfl
    exact exists_directory_of_walk (show t.Along [] from trivial) hroot hlocate
  · cases htrail : t.trailTo [] t.workingDir with
    | none =>
      rw [htrail] at hlocate
      cases hlocate
    | some trail =>
      rw [htrail] at hlocate
      have hroot : Beside t t [] [] := ⟨trivial, trivial, rfl⟩
      obtain ⟨_, _, hbeside⟩ := trailTo_grows (.refl t) hroot htrail
      have hcurrent : t.root.at? t.workingDir = some (t.current trail) := by
        rw [← at?_placeOf hbeside.along, placeOf_trailTo htrail]
        rfl
      rw [hentries] at hcurrent
      refine exists_directory_of_walk hbeside.along ?_ hlocate
      rw [← Option.some.inj hcurrent]
      rfl

/-! ## Reading -/

theorem find_unnamed {path : Pathname} {place : Place} {e : Entry}
    (h : t.locate path = .ok (.unnamed place e)) : t.find path = .ok e := by
  rw [find, resolve, h]
  rfl

theorem find_named {path : Pathname} {above : Place} {name : Name} {e : Entry} {slashed : Bool}
    (h : t.locate path = .ok (.named above name (some e) slashed))
    (hslashed : (slashed && !e.isDirectory) = false) : t.find path = .ok e := by
  rw [find, resolve, h]
  change Except.map _ (if (slashed && !e.isDirectory) = true then _ else _) = _
  rw [hslashed]
  rfl

theorem exists_spot {path : Pathname} {e : Entry} (h : t.find path = .ok e) :
    (∃ place, t.locate path = .ok (.unnamed place e)) ∨
      ∃ above name slashed, t.locate path = .ok (.named above name (some e) slashed) ∧
        (slashed && !e.isDirectory) = false := by
  rw [find, resolve] at h
  cases hspot : t.locate path with
  | error fault =>
    rw [hspot] at h
    cases h
  | ok spot =>
    rw [hspot] at h
    cases spot with
    | unnamed place entry =>
      cases h
      exact .inl ⟨place, rfl⟩
    | named above name found slashed =>
      cases found with
      | none => cases h
      | some entry =>
        change Except.map _ (if (slashed && !entry.isDirectory) = true then _ else _) = _ at h
        cases hslashed : slashed && !entry.isDirectory with
        | true =>
          rw [hslashed] at h
          cases h
        | false =>
          rw [hslashed] at h
          cases h
          exact .inr ⟨above, name, slashed, rfl, hslashed⟩

theorem find_grows (hgrows : t.Grows t') {path : Pathname} {e : Entry}
    (h : t.find path = .ok e) : ∃ e', t'.find path = .ok e' ∧ e.Stays e' := by
  rcases exists_spot h with ⟨place, hlocate⟩ | ⟨above, name, slashed, hlocate, hslashed⟩
  · obtain ⟨hhas, hlocate'⟩ := locate_grows hgrows hlocate
    obtain ⟨e', he', hstays⟩ := hgrows.root place e hhas
    rw [seen, he', Option.getD_some] at hlocate'
    exact ⟨e', find_unnamed hlocate', hstays⟩
  · obtain ⟨hhas, hlocate'⟩ := locate_grows hgrows hlocate
    obtain ⟨e', he', hstays⟩ := hgrows.root (above ++ [name]) e hhas
    rw [seen, he'] at hlocate'
    exact ⟨e', find_named hlocate' (by rwa [hstays.isDirectory_eq]), hstays⟩

theorem Grows.isDirectory (hgrows : t.Grows t') {path : Pathname}
    (h : t.isDirectory path = true) : t'.isDirectory path = true := by
  rw [Tree.isDirectory] at h ⊢
  cases hfind : t.find path with
  | error fault =>
    rw [hfind] at h
    cases h
  | ok e =>
    obtain ⟨e', hfind', hstays⟩ := find_grows hgrows hfind
    rw [hfind] at h
    rw [hfind']
    exact hstays.isDirectory_eq.trans h

theorem Keeps.read (hkeeps : t.Keeps t') {path : Pathname} {bytes : List UInt8}
    (h : t.read path = .ok bytes) : t'.read path = .ok bytes := by
  rw [Tree.read] at h ⊢
  cases hfind : t.find path with
  | error fault =>
    rw [hfind] at h
    cases h
  | ok e =>
    obtain ⟨e', hfind', hstays⟩ := find_grows hkeeps.toGrows hfind
    rw [hfind] at h
    rw [hfind']
    cases e with
    | directory entries => cases h
    | socket listener => cases h
    | device device =>
      obtain rfl := hstays.eq rfl
      exact h
    | file id =>
      obtain rfl := hstays.eq rfl
      rw [← h]
      change (Except.ok (t'.content id).bytes : Except SystemFault _) = .ok (t.content id).bytes
      rw [content, content, hkeeps.contents]

/-! ## Making directories -/

theorem createDirectory_eq_ok {path : Pathname} (h : t.createDirectory path = .ok t') :
    ∃ above name slashed, t.locate path = .ok (.named above name none slashed) ∧
      t' = t.put (above ++ [name]) (some (.directory [])) := by
  rw [createDirectory] at h
  cases hspot : t.locate path with
  | error fault =>
    rw [hspot] at h
    cases h
  | ok spot =>
    rw [hspot] at h
    rcases spot with _ | ⟨above, name, _ | e, slashed⟩
    · cases h
    · cases h
      exact ⟨above, name, slashed, rfl, rfl⟩
    · cases h

theorem ensureDirectory_eq_ok {path : Pathname} (h : t.ensureDirectory path = .ok t') :
    t.createDirectory path = .ok t' ∨ t' = t ∧ t.isDirectory path = true := by
  rw [ensureDirectory] at h
  cases hmade : t.createDirectory path with
  | ok made =>
    rw [hmade] at h
    cases h
    exact .inl rfl
  | error fault =>
    rw [hmade] at h
    dsimp only at h
    split_ifs at h with hthere
    cases h
    exact .inr ⟨rfl, hthere⟩

theorem createChain_preserves {P : Tree → Prop}
    (hstep : ∀ {t t' : Tree} {path : Pathname}, t.createDirectory path = .ok t' → P t → P t')
    (paths : List String) (t : Tree) (h : P t) : P (createChain paths t).1 := by
  have hensure : ∀ {t t' : Tree} {path : Pathname},
      t.ensureDirectory path = .ok t' → P t → P t' := by
    intro t t' path hmade ht
    rcases ensureDirectory_eq_ok hmade with hcreate | ⟨rfl, -⟩
    · exact hstep hcreate ht
    · exact ht
  fun_induction createChain paths t with
  | case1 t => exact h
  | case2 path above t => exact h
  | case3 path above t hpath made hmade => exact hensure hmade h
  | case4 path above t hpath hfault made fault habove ih =>
    rw [habove] at ih
    exact ih h
  | case5 path above t hpath hfault made habove final hfinal ih =>
    rw [habove] at ih
    exact hensure hfinal (ih h)
  | case6 path above t hpath hfault made habove fault hfinal ih =>
    rw [habove] at ih
    exact ih h
  | case7 path above t => exact h

theorem createDirectory_keeps {path : Pathname} (h : t.createDirectory path = .ok t') :
    t.Keeps t' := by
  obtain ⟨above, name, slashed, hspot, rfl⟩ := createDirectory_eq_ok h
  have hfree := has_of_locate hspot
  exact ⟨grows_put hfree _, rfl, fun _ _ => Entry.at?_put_directory hfree⟩

theorem createChain_keeps (paths : List String) (t : Tree) :
    t.Keeps (createChain paths t).1 :=
  createChain_preserves (fun hmade hkeeps => hkeeps.trans (createDirectory_keeps hmade)) paths t
    (.refl t)

theorem createDirectories_keeps (t : Tree) (path : String) :
    t.Keeps (t.createDirectories path).1 :=
  createChain_keeps _ t

/-! ## Removing files -/

theorem removeFile_eq {path : Pathname} {above : Place} {name : Name} {found : Option Entry}
    (h : t.locate path = .ok (.named above name found false)) :
    t.removeFile path = found.elim (.error .notFound) fun e =>
      if e.isDirectory then .error .isADirectory else .ok (t.put (above ++ [name]) none) := by
  rw [removeFile, h]
  cases found <;> rfl

theorem Rooted.removeFile (h : t.Rooted) {path : Pathname} (hremove : t.removeFile path = .ok t') :
    t'.Rooted := by
  rw [Tree.removeFile] at hremove
  cases hspot : t.locate path with
  | error fault =>
    rw [hspot] at hremove
    cases hremove
  | ok spot =>
    rw [hspot] at hremove
    rcases spot with _ | ⟨above, name, _ | e, slashed⟩
    · cases hremove
    · cases hremove
    · change (if e.isDirectory = true then _ else if slashed = true then _ else _) = _ at hremove
      split_ifs at hremove with hdirectory hslashed
      cases hremove
      exact h.put_none (has_of_locate hspot) (by simpa using hdirectory)

/-! ## Writing -/

theorem content_setContent (t : Tree) (id : Nat) (c : Content) :
    (t.setContent id c).content id = c := by
  rw [content, setContent, List.lookup_cons_self, Option.getD_some]

theorem read_file {path : Pathname} {id : Nat} (h : t.find path = .ok (.file id)) :
    t.read path = .ok (t.content id).bytes := by
  rw [Tree.read, h]
  rfl

/-- What a write can do: write to a file that is there, write to a device, or add a file. -/
theorem write_cases {path : Pathname} {bytes : List UInt8} (h : t.write path bytes = .ok t') :
    (∃ id, t.find path = .ok (.file id) ∧
      t' = t.setContent id ((t.content id).withBytes bytes)) ∨
    (∃ device, t.find path = .ok (.device device) ∧ t' = t) ∨
    ∃ above name, t.locate path = .ok (.named above name none false) ∧
      t' = (t.addFile (above ++ [name]) {}).1.setContent t.nextFile
        (Content.withBytes {} bytes) := by
  rw [write, openToWrite] at h
  cases hspot : t.locate path with
  | error fault =>
    rw [hspot] at h
    cases h
  | ok spot =>
    rw [hspot] at h
    rcases spot with _ | ⟨above, name, found, _ | _⟩
    · cases h
    · rcases found with _ | ⟨_⟩ | id | _ | device
      · cases h
        refine .inr (.inr ⟨above, name, rfl, ?_⟩)
        rw [addFile, content, List.lookup_cons_self, Option.getD_some]
      · cases h
      · cases h
        exact .inl ⟨id, find_named hspot rfl, rfl⟩
      · cases h
      · cases h
        exact .inr (.inl ⟨device, find_named hspot rfl, rfl⟩)
    · cases h

theorem bytes_withBytes (c : Content) (bytes : List UInt8) : (c.withBytes bytes).bytes = bytes := by
  rw [Content.bytes, Content.withBytes, List.toList_toArray]

def isFile (t : Tree) (path : Pathname) : Bool :=
  match t.find path with
  | .ok (.file _) => true
  | _ => false

theorem exists_file {path : Pathname} (h : t.isFile path = true) :
    ∃ id, t.find path = .ok (.file id) := by
  rw [isFile] at h
  split at h
  · next id hfind => exact ⟨id, hfind⟩
  · cases h

theorem read_write {path : Pathname} {bytes : List UInt8} (h : t.write path bytes = .ok t')
    (hfile : t'.isFile path = true) : t'.read path = .ok bytes := by
  obtain ⟨id, hfile⟩ := exists_file hfile
  rw [read_file hfile]
  rcases write_cases h with ⟨old, hold, rfl⟩ | ⟨device, hdevice, rfl⟩ | ⟨above, name, hspot, rfl⟩
  · have hgrows : t.Grows (t.setContent old ((t.content old).withBytes bytes)) :=
      ⟨.refl _, rfl⟩
    obtain ⟨e, he, hstays⟩ := find_grows hgrows hold
    obtain rfl := hstays.eq rfl
    rw [hfile] at he
    cases he
    rw [content_setContent, bytes_withBytes]
  · rw [hdevice] at hfile
    cases hfile
  · have hfree := has_of_locate hspot
    have hgrows : t.Grows ((t.addFile (above ++ [name]) {}).1.setContent t.nextFile
        (Content.withBytes {} bytes)) := ⟨Entry.grows_put hfree _, rfl⟩
    have hlocate := (locate_grows hgrows hspot).2
    rcases exists_spot hfile with ⟨place, hplace⟩ | ⟨above', name', slashed, hplace, -⟩
    · rw [hplace] at hlocate
      cases hlocate
    · rw [hplace, seen] at hlocate
      have hentry : Entry.at? (t.root.put (above ++ [name]) (some (.file t.nextFile)))
          (above ++ [name]) = some (.file id) := by
        injection hlocate with hlocate
        injection hlocate with habove hname hfound
        exact hfound.symm
      obtain rfl : id = t.nextFile := by
        injection Entry.eq_of_at?_put hfree hentry
      rw [content_setContent, bytes_withBytes]

/-! ## Files that stay -/

/-- Are the files of a tree in another one, at their places and with their contents? -/
structure KeepsFiles (t t' : Tree) : Prop where
  there : ∀ place id, t.root.at? place = some (.file id) → t'.root.at? place = some (.file id)
  contents : ∀ place id, t.root.at? place = some (.file id) → t'.content id = t.content id

/-- Is the number of a new file one that no file has? -/
def Numbered (t : Tree) : Prop :=
  ∀ place id, t.root.at? place = some (.file id) → id < t.nextFile

theorem KeepsFiles.refl (t : Tree) : t.KeepsFiles t := ⟨fun _ _ h => h, fun _ _ _ => rfl⟩

theorem KeepsFiles.trans {t'' : Tree} (h : t.KeepsFiles t') (h' : t'.KeepsFiles t'') :
    t.KeepsFiles t'' where
  there place id hfile := h'.there place id (h.there place id hfile)
  contents place id hfile := (h'.contents place id (h.there place id hfile)).trans
    (h.contents place id hfile)

theorem Grows.file (hgrows : t.Grows t') {place : Place} {id : Nat}
    (hfile : t.root.at? place = some (.file id)) : t'.root.at? place = some (.file id) := by
  obtain ⟨e, he, hstays⟩ := hgrows.root place _ hfile
  rw [he, hstays.eq rfl]

theorem Keeps.keepsFiles (hkeeps : t.Keeps t') : t.KeepsFiles t' where
  there _ _ hfile := hkeeps.toGrows.file hfile
  contents _ _ _ := by rw [content, content, hkeeps.contents]

theorem createChain_nextFile (paths : List String) (t : Tree) :
    (createChain paths t).1.nextFile = t.nextFile := by
  apply createChain_preserves (P := fun made => made.nextFile = t.nextFile) _ paths t rfl
  intro made made' path hmade hnext
  obtain ⟨above, name, slashed, -, rfl⟩ := createDirectory_eq_ok hmade
  exact hnext

theorem Numbered.createDirectories (h : t.Numbered) (path : String) :
    (t.createDirectories path).1.Numbered := by
  intro place id hfile
  rw [Tree.createDirectories, createChain_nextFile]
  rcases (createChain_keeps _ t).added place _ hfile with hdirectory | hfile
  · cases hdirectory
  · exact h place id hfile

theorem file_of_put {place other : Place} (hfree : t.root.at? place = none) {new id : Nat}
    (hfile : (t.put place (some (.file new))).root.at? other = some (.file id)) :
    id = new ∨ t.root.at? other = some (.file id) := by
  have hput : (t.put place (some (.file new))).root = t.root.put place (some (.file new)) := rfl
  rw [hput] at hfile
  by_cases hother : place <+: other
  · obtain ⟨below, rfl⟩ := hother
    rw [Entry.at?_append] at hfile
    obtain ⟨e, he, hbelow⟩ := Option.bind_eq_some_iff.1 hfile
    obtain rfl := Entry.eq_of_at?_put hfree he
    cases below with
    | nil =>
      cases hbelow
      exact .inl rfl
    | cons name rest => cases hbelow
  · rcases t.root.at?_put_elsewhere hother (some (.file new)) with
      ⟨-, hnone⟩ | ⟨e, e', he, he', hstays⟩
    · rw [hnone] at hfile
      cases hfile
    · rw [he'] at hfile
      obtain rfl := Option.some.inj hfile
      cases hdirectory : e.isDirectory with
      | false =>
        rw [hstays.eq hdirectory]
        exact .inr he
      | true =>
        have hnew := hstays.isDirectory_eq.trans hdirectory
        cases hnew

theorem content_setContent_of_ne {id other : Nat} (h : other ≠ id) (c : Content) :
    (t.setContent id c).content other = t.content other := by
  rw [content, setContent, lookup_cons_eq, if_neg h, lookup_removed, if_neg h]
  rfl

theorem write_keepsFiles (hnumbered : t.Numbered) {path : Pathname} {bytes : List UInt8}
    (hwrite : t.write path bytes = .ok t') (hpath : t.isFile path = false) :
    t.KeepsFiles t' ∧ t'.Numbered := by
  rcases write_cases hwrite with ⟨id, hfind, rfl⟩ | ⟨device, -, rfl⟩ | ⟨above, name, hspot, rfl⟩
  · rw [isFile, hfind] at hpath
    cases hpath
  · exact ⟨.refl _, hnumbered⟩
  · have hfree : t.root.at? (above ++ [name]) = none := has_of_locate hspot
    refine ⟨⟨fun place id hfile => (grows_put hfree _).file hfile, fun place id hfile => ?_⟩,
      fun place id hfile => ?_⟩
    · have hne : id ≠ t.nextFile := Nat.ne_of_lt (hnumbered place id hfile)
      rw [content_setContent_of_ne hne, content, addFile, lookup_cons_eq, if_neg hne]
      rfl
    · rcases file_of_put hfree hfile with rfl | hold
      · exact Nat.lt_succ_self _
      · exact Nat.lt_succ_of_lt (hnumbered place id hold)

end Tree
end DaemonDialogue.File
