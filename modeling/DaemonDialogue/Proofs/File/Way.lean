import DaemonDialogue.Proofs.File.Tree
import DaemonDialogue.Proofs.Text.Utf8

/-!
# Where paths lead

The names of a path alone decide where it leads and which directories it goes through, and a tree
only decides whether these are there. So what is removed from a tree matters to a path only if the
path goes through it or leads to it.
-/

namespace DaemonDialogue.File

/-! ## Names -/

/-- The places of the directories that some names go through, that of the last name aside. -/
def visited (above : Place) : List Name → List Place
  | [] => []
  | name :: rest =>
    if name = [Tree.dot] then visited above rest
    else if name = [Tree.dot, Tree.dot] then visited above.dropLast rest
    else if rest = [] then []
    else (above ++ [name]) :: visited (above ++ [name]) rest

/-- Where some names lead: to a name in a directory, or to a directory that they do not name. -/
def target (above : Place) : List Name → Place × Option Name
  | [] => (above, none)
  | name :: rest =>
    if name = [Tree.dot] then target above rest
    else if name = [Tree.dot, Tree.dot] then target above.dropLast rest
    else if rest = [] then (above, some name)
    else target (above ++ [name]) rest

def destination : Place × Option Name → Place
  | (above, name?) => above ++ name?.toList

theorem forall_visited_append (above : Place) (names : List Name) {more : List Name}
    (hmore : more ≠ []) (P : Place → Prop) :
    (∀ q ∈ visited above (names ++ more), P q) ↔ (∀ q ∈ visited above names, P q) ∧
      ((target above names).2.isSome → P (destination (target above names))) ∧
      ∀ q ∈ visited (destination (target above names)) more, P q := by
  induction names generalizing above with
  | nil => simp [visited, target, destination]
  | cons name rest ih =>
    rw [List.cons_append, visited, visited, target]
    split_ifs with hdot hup happend hrest hrest
    · exact ih above
    · exact ih above.dropLast
    · simp [hmore] at happend
    · simp [hmore] at happend
    · subst hrest
      simp [destination]
    · rw [List.forall_mem_cons, List.forall_mem_cons, ih, and_assoc]

theorem target_append (above : Place) (names : List Name) {more : List Name} (hmore : more ≠ []) :
    target above (names ++ more) = target (destination (target above names)) more := by
  induction names generalizing above with
  | nil => simp [target, destination]
  | cons name rest ih =>
    rw [List.cons_append, target, target.eq_def above (name :: rest)]
    dsimp only
    split_ifs with hdot hup happend hrest hrest
    · exact ih above
    · exact ih above.dropLast
    · simp [hmore] at happend
    · simp [hmore] at happend
    · subst hrest
      rfl
    · exact ih (above ++ [name])

theorem getLast?_of_target {above above' : Place} {names : List Name} {last : Name}
    (h : target above names = (above', some last)) : names.getLast? = some last := by
  induction names generalizing above with
  | nil => cases h
  | cons name rest ih =>
    rw [target] at h
    have hrest (hrest : rest.getLast? = some last) : (name :: rest).getLast? = some last := by
      rw [List.getLast?_cons, hrest, Option.getD_some]
    split_ifs at h with hdot hup hlast
    · exact hrest (ih h)
    · exact hrest (ih h)
    · cases h
      rw [hlast, List.getLast?_singleton]
    · exact hrest (ih h)

/-- Names lead through a place only if they start below it or one of them, the last one aside, is
its name. -/
theorem visited_names {place : Place} {last : Name} (hlast : place.getLast? = some last)
    {names : List Name} (hnames : last ∉ names) {above : Place} (habove : ¬place <+: above)
    (final : Name) :
    (∀ q ∈ visited above (names ++ [final]), ¬place <+: q) ∧
      ¬place <+: (target above (names ++ [final])).1 := by
  have hup {other : Place} (hother : ¬place <+: other) : ¬place <+: other.dropLast :=
    fun hbelow => hother (hbelow.trans (List.dropLast_prefix other))
  induction names generalizing above with
  | nil =>
    rw [List.nil_append, visited, target, if_pos rfl, if_pos rfl]
    split_ifs
    · exact ⟨nofun, habove⟩
    · exact ⟨nofun, hup habove⟩
    · exact ⟨nofun, habove⟩
  | cons name rest ih =>
    rw [List.mem_cons, not_or] at hnames
    rw [List.cons_append, visited, target]
    split_ifs with hdot hdots hend
    · exact ih hnames.2 habove
    · exact ih hnames.2 (hup habove)
    · simp at hend
    · have hpush : ¬place <+: above ++ [name] := by
        intro hbelow
        rcases List.prefix_concat_iff.1 hbelow with rfl | hbelow
        · rw [List.getLast?_concat] at hlast
          exact hnames.1 (Option.some.inj hlast).symm
        · exact habove hbelow
      obtain ⟨hvisited, htarget⟩ := ih hnames.2 hpush
      exact ⟨List.forall_mem_cons.2 ⟨hpush, hvisited⟩, htarget⟩

/-- Names none of which leads up lead below where they start, and go through nothing that is not on
the way there. -/
theorem visited_straight {names : List Name} (hup : [Tree.dot, Tree.dot] ∉ names) (above : Place) :
    above <+: destination (target above names) ∧
      ∀ q ∈ visited above names, q <+: destination (target above names) := by
  induction names generalizing above with
  | nil => exact ⟨List.prefix_append _ _, nofun⟩
  | cons name rest ih =>
    obtain ⟨hname, hrest⟩ := not_or.1 (mt List.mem_cons.2 hup)
    rw [visited, target, if_neg (Ne.symm hname), if_neg (Ne.symm hname)]
    split_ifs with hdot hend
    · exact ih hrest above
    · exact ⟨List.prefix_append _ _, nofun⟩
    · obtain ⟨hbelow, hvisited⟩ := ih hrest (above ++ [name])
      exact ⟨(List.prefix_append _ _).trans hbelow, List.forall_mem_cons.2 ⟨hbelow, hvisited⟩⟩

namespace Pathname

def names (path : Pathname) : List Name :=
  (path.bytes.splitOn Tree.slash).filter fun name => !name.isEmpty

/-- The names of a path that have a slash behind them. -/
def leading (path : Pathname) : List Name :=
  (path.bytes.splitOn Tree.slash).dropLast.filter fun name => !name.isEmpty

def start (path : Pathname) (workingDir : Place) : Place :=
  if path.bytes.head? == some Tree.slash then [] else workingDir

/-- The places of the directories that a path goes through. -/
def visited (path : Pathname) (workingDir : Place) : List Place :=
  File.visited (path.start workingDir) path.names

def target (path : Pathname) (workingDir : Place) : Place × Option Name :=
  File.target (path.start workingDir) path.names

def place (path : Pathname) (workingDir : Place) : Place := destination (path.target workingDir)

/-- Does a path lead to a place or to one below it, or does it go through there? -/
def Through (path : Pathname) (place workingDir : Place) : Prop :=
  (∃ q ∈ path.visited workingDir, place <+: q) ∨ place <+: path.place workingDir

theorem not_through_iff {path : Pathname} {place workingDir : Place} :
    ¬path.Through place workingDir ↔
      (∀ q ∈ path.visited workingDir, ¬place <+: q) ∧ ¬place <+: path.place workingDir := by
  rw [Through, not_or]
  push Not
  rfl

theorem Through.self (path : Pathname) (workingDir : Place) :
    path.Through (path.place workingDir) workingDir :=
  .inr List.prefix_rfl

theorem Through.above {path : Pathname} {place above workingDir : Place}
    (h : path.Through place workingDir) (habove : above <+: place) :
    path.Through above workingDir :=
  h.imp (fun ⟨q, hq, hbelow⟩ => ⟨q, hq, habove.trans hbelow⟩) habove.trans

/-- Does the system take a path? -/
structure Fits (path : Pathname) : Prop where
  nul : path.bytes.contains 0 = false
  nonempty : path.bytes ≠ []
  length : path.bytes.length ≤ Tree.maxPath
  names : ∀ name ∈ path.names, name.length ≤ Tree.maxName

/-- Does a path name what it leads to, and is that not on the way to the working directory? -/
structure Ground (path : Pathname) (workingDir : Place) : Prop where
  named : ∃ above name, path.target workingDir = (above, some name)
  workingDir : ¬path.place workingDir <+: workingDir

end Pathname

namespace Tree

variable {t t' : Tree}

def DirAt (t : Tree) (place : Place) : Prop :=
  ∃ entries, t.root.at? place = some (.directory entries)

/-- What a tree has where some names lead. -/
def spot (t : Tree) (slashed : Bool) : Place × Option Name → Spot
  | (above, some name) => .named above name (t.root.at? (above ++ [name])) slashed
  | (place, none) => .unnamed place ((t.root.at? place).getD default)

theorem placeOf_drop (trail : Trail) : placeOf (trail.drop 1) = (placeOf trail).dropLast := by
  cases trail with
  | nil => rfl
  | cons m rest =>
    obtain ⟨name, e⟩ := m
    rw [placeOf_cons, List.dropLast_concat, List.drop_succ_cons, List.drop_zero]

/-- A walk arrives if its names are not too long and the directories that it goes through are
there. -/
theorem walk_eq_ok {slashed : Bool} {trail : Trail} (h : t.Along trail) {names : List Name}
    {spot : Spot} : t.walk slashed trail names = .ok spot ↔
      (∀ name ∈ names, name.length ≤ maxName) ∧
      (∀ q ∈ visited (placeOf trail) names, t.DirAt q) ∧
      spot = t.spot slashed (target (placeOf trail) names) := by
  induction names generalizing trail with
  | nil =>
    rw [walk, visited, target, Tree.spot, at?_placeOf h, Option.getD_some]
    simp [eq_comm]
  | cons name rest ih =>
    rw [visited, target, List.forall_mem_cons]
    unfold walk
    split_ifs with hdot hup hlong hrest hrest
    · rw [ih h, hdot]
      simp [maxName]
    · rw [ih h.drop, placeOf_drop, hup]
      simp [maxName]
    · simp [hlong]
    · simp [hlong]
    · rw [hrest, Tree.spot, at?_child h]
      simp [Nat.not_lt.1 hlong, eq_comm]
    · have hdirectory : t.DirAt (placeOf trail ++ [name]) ↔
          ∃ entries, (t.current trail).child? name = some (.directory entries) := by
        rw [DirAt, at?_child h]
      obtain ⟨next, more, rfl⟩ := List.exists_cons_of_ne_nil hrest
      simp only [List.forall_mem_cons, hdirectory]
      cases hchild : (t.current trail).child? name with
      | none => simp
      | some e =>
        cases e with
        | directory entries =>
          have halong : t.Along ((name, .directory entries) :: trail) := ⟨hchild, h⟩
          have hnext := ih halong
          rw [placeOf_cons] at hnext
          simpa [Nat.not_lt.1 hlong] using hnext
        | _ => simp

theorem exists_trailTo {trail : Trail} (h : t.Along trail) {place : Place} {e : Entry}
    (hplace : (t.current trail).at? place = some e) :
    ∃ last, t.trailTo trail place = some last ∧ t.Along last := by
  induction place generalizing trail with
  | nil => exact ⟨trail, rfl, h⟩
  | cons name rest ih =>
    rw [Entry.at?] at hplace
    obtain ⟨f, hf, hplace⟩ := Option.bind_eq_some_iff.1 hplace
    have halong : t.Along ((name, f) :: trail) := ⟨hf, h⟩
    obtain ⟨last, hlast, hend⟩ := ih halong hplace
    refine ⟨last, ?_, hend⟩
    rw [trailTo, hf]
    exact hlast

/-- A path leads somewhere if the system takes it and the directories that it goes through are
there. -/
theorem locate_eq_ok (h : t.Rooted) {path : Pathname} {spot : Spot} :
    t.locate path = .ok spot ↔ path.Fits ∧
      (∀ q ∈ path.visited t.workingDir, t.DirAt q) ∧
      spot = t.spot (path.bytes.getLast? == some slash) (path.target t.workingDir) := by
  obtain ⟨entries, hentries⟩ := h
  unfold locate
  split_ifs with hnul hempty hlong habsolute
  · exact ⟨nofun, fun hpath => by rw [hpath.1.nul] at hnul; cases hnul⟩
  · exact ⟨nofun, fun hpath => absurd (List.isEmpty_iff.1 hempty) hpath.1.nonempty⟩
  · exact ⟨nofun, fun hpath => absurd hpath.1.length (Nat.not_le.2 hlong)⟩
  all_goals
    have hfits : path.Fits ↔ ∀ name ∈ path.names, name.length ≤ maxName :=
      ⟨fun hfits => hfits.names, fun hnames => ⟨by simpa using hnul, by simpa using hempty,
        Nat.not_lt.1 hlong, hnames⟩⟩
    rw [hfits, Pathname.visited, Pathname.target, Pathname.start]
  · have hroot : t.Along [] := trivial
    rw [if_pos habsolute]
    exact walk_eq_ok hroot
  · have hroot : t.Along [] := trivial
    obtain ⟨trail, htrail, halong⟩ := exists_trailTo hroot hentries
    have hplace : placeOf trail = t.workingDir := placeOf_trailTo htrail
    rw [if_neg habsolute, htrail, ← hplace]
    exact walk_eq_ok halong

theorem find_place (h : t.Rooted) {path : Pathname} {e : Entry} (hfind : t.find path = .ok e) :
    path.Fits ∧ (∀ q ∈ path.visited t.workingDir, t.DirAt q) ∧
      t.root.at? (path.place t.workingDir) = some e := by
  rcases exists_spot hfind with ⟨place, hlocate⟩ | ⟨above, name, slashed, hlocate, -⟩
  all_goals
    obtain ⟨hfits, hvisited, hspot⟩ := (locate_eq_ok h).1 hlocate
    have hhas := has_of_locate hlocate
    refine ⟨hfits, hvisited, ?_⟩
    rw [Pathname.place]
    rcases htarget : path.target t.workingDir with ⟨above', _ | name'⟩
    all_goals
      rw [htarget] at hspot
      injection hspot
  · next hplace _ =>
    rw [destination, Option.toList_none, List.append_nil, ← hplace]
    exact hhas
  · next habove hname hfound _ =>
    rw [destination, Option.toList_some, ← habove, ← hname]
    exact hhas

theorem find_of_dirAt (h : t.Rooted) {path : Pathname} (hfits : path.Fits)
    (hvisited : ∀ q ∈ path.visited t.workingDir, t.DirAt q) {entries : List (Name × Entry)}
    (hplace : t.root.at? (path.place t.workingDir) = some (.directory entries)) :
    t.find path = .ok (.directory entries) := by
  have hlocate := (locate_eq_ok h).2 ⟨hfits, hvisited, rfl⟩
  rw [Pathname.place] at hplace
  rcases htarget : path.target t.workingDir with ⟨above, _ | name⟩
  all_goals
    rw [htarget] at hplace hlocate
    rw [destination] at hplace
    rw [spot] at hlocate
  · rw [Option.toList_none, List.append_nil] at hplace
    rw [hplace] at hlocate
    exact find_unnamed hlocate
  · rw [Option.toList_some] at hplace
    rw [hplace] at hlocate
    exact find_named hlocate (by simp [Entry.isDirectory])

/-- A path leads to a directory if it is there with those that the path goes through. -/
theorem isDirectory_iff (h : t.Rooted) {path : Pathname} :
    t.isDirectory path = true ↔ path.Fits ∧ (∀ q ∈ path.visited t.workingDir, t.DirAt q) ∧
      t.DirAt (path.place t.workingDir) := by
  constructor
  · intro hdirectory
    rw [isDirectory] at hdirectory
    cases hfind : t.find path with
    | error fault =>
      rw [hfind] at hdirectory
      cases hdirectory
    | ok e =>
      rw [hfind] at hdirectory
      obtain ⟨entries, rfl⟩ := Entry.exists_entries hdirectory
      obtain ⟨hfits, hvisited, hplace⟩ := find_place h hfind
      exact ⟨hfits, hvisited, entries, hplace⟩
  · rintro ⟨hfits, hvisited, entries, hplace⟩
    rw [isDirectory, find_of_dirAt h hfits hvisited hplace]
    rfl

theorem contains_place (h : t.Rooted) {path : Pathname} (hcontains : t.contains path = true) :
    (∀ q ∈ path.visited t.workingDir, t.DirAt q) ∧
      t.root.at? (path.place t.workingDir) ≠ none := by
  rw [contains] at hcontains
  cases hfind : t.find path with
  | error fault =>
    rw [hfind] at hcontains
    cases hcontains
  | ok e =>
    obtain ⟨-, hvisited, hplace⟩ := find_place h hfind
    exact ⟨hvisited, by simp [hplace]⟩

theorem not_below_free {place q : Place} (hfree : t.root.at? place = none) (hq : t.DirAt q) :
    ¬place <+: q := by
  rintro ⟨below, rfl⟩
  obtain ⟨entries, hentries⟩ := hq
  rw [Entry.at?_append, hfree] at hentries
  cases hentries

theorem ground_of_free (h : t.Rooted) {path : Pathname} {above : Place} {name : Name}
    {slashed : Bool} (hlocate : t.locate path = .ok (.named above name none slashed)) :
    path.target t.workingDir = (above, some name) ∧ path.Ground t.workingDir := by
  obtain ⟨-, -, hspot⟩ := (locate_eq_ok h).1 hlocate
  have htarget : path.target t.workingDir = (above, some name) := by
    rcases htarget : path.target t.workingDir with ⟨above', _ | name'⟩
    all_goals
      rw [htarget] at hspot
      injection hspot
    next habove hname _ _ => rw [habove, hname]
  have hplace : path.place t.workingDir = above ++ [name] := by
    rw [Pathname.place, htarget]
    rfl
  refine ⟨htarget, ⟨above, name, htarget⟩, ?_⟩
  rw [hplace]
  exact not_below_free (has_of_locate hlocate) h

/-! ## A path behind a path -/

theorem slash_notMem {name : String} (h : '/' ∉ name.toList) : slash ∉ Utf8.encode name := by
  intro hmem
  obtain ⟨c, hc, hslash⟩ := Utf8.exists_of_mem_encodeChars hmem (by decide)
  have hc' : c = '/' := Char.ext (UInt32.toNat_inj.1 hslash)
  exact h (hc' ▸ hc)

theorem splitOn_slash (before rest : List UInt8) :
    (before ++ slash :: rest).splitOn slash = before.splitOn slash ++ rest.splitOn slash :=
  List.splitOnP_append_cons (p := (· == slash)) before rest (beq_self_eq_true slash)

theorem isAbsolute_eq_false {name : String} (h : '/' ∉ name.toList) :
    Path.isAbsolute name = false := by
  cases hchars : name.toList with
  | nil => simp [Path.isAbsolute, hchars]
  | cons c rest =>
    have hc : c ≠ '/' := fun hc => h (by simp [hchars, hc])
    simp [Path.isAbsolute, hchars, hc]

theorem exists_join {base path : String} (hbase : base ≠ "")
    (hpath : Path.isAbsolute path = false) :
    ∃ before, Utf8.encode (Path.join base path) = before ++ slash :: Utf8.encode path ∧
      Pathname.names ⟨before⟩ = Pathname.names base ∧
      (before ++ [slash]).head? = (Utf8.encode base).head? := by
  have hempty : base.isEmpty = false := by simpa using hbase
  rw [Path.join, hpath, hempty, Bool.false_or]
  by_cases hlast : base.toList.getLast? = some '/'
  · rw [if_neg Bool.false_ne_true, if_pos (by simpa using hlast)]
    obtain ⟨chars, hchars⟩ := List.getLast?_eq_some_iff.1 hlast
    have hbytes : Utf8.encode base = Utf8.encodeChars chars ++ [slash] := by
      rw [Utf8.encode, hchars, Utf8.encodeChars, List.flatMap_append]
      rfl
    refine ⟨Utf8.encodeChars chars, ?_, ?_, by rw [hbytes]⟩
    · rw [Utf8.encode_append, hbytes, List.append_assoc]
      rfl
    · rw [Pathname.names, Pathname.names, hbytes, splitOn_slash, List.filter_append]
      simp
  · rw [if_neg Bool.false_ne_true, if_neg (by simpa using hlast)]
    refine ⟨Utf8.encode base, ?_, rfl, ?_⟩
    · rw [Utf8.encode_append, Utf8.encode_append, List.append_assoc]
      rfl
    · have hbytes : Utf8.encode base ≠ [] := fun hnil => hbase (Utf8.encode_eq_nil_iff.1 hnil)
      rw [List.head?_append, Option.or_of_isSome (by simpa using hbytes)]

section Join

variable {base path name : String} {workingDir : Place}

theorem join_ne_empty (hbase : base ≠ "") (hpath : Path.isAbsolute path = false) :
    Path.join base path ≠ "" := by
  obtain ⟨before, hbytes, -⟩ := exists_join hbase hpath
  intro hjoin
  rw [hjoin, Utf8.encode_eq_nil_iff.2 rfl] at hbytes
  simp at hbytes

theorem names_join (hbase : base ≠ "") (hpath : Path.isAbsolute path = false) :
    Pathname.names (Path.join base path) = Pathname.names base ++ Pathname.names path := by
  obtain ⟨before, hbytes, hnames, -⟩ := exists_join hbase hpath
  rw [← hnames, Pathname.names, Pathname.names, Pathname.names, hbytes, splitOn_slash,
    List.filter_append]

theorem start_join (hbase : base ≠ "") (hpath : Path.isAbsolute path = false) :
    Pathname.start (Path.join base path) workingDir = Pathname.start base workingDir := by
  obtain ⟨before, hbytes, -, hhead⟩ := exists_join hbase hpath
  rw [Pathname.start, Pathname.start, hbytes, ← hhead]
  cases before <;> rfl

theorem start_of_isAbsolute (hpath : Path.isAbsolute path = true) :
    Pathname.start path workingDir = [] := by
  obtain ⟨rest, hrest⟩ := List.head?_eq_some_iff.1 (beq_iff_eq.1 hpath)
  have hbytes : Utf8.encode path = slash :: Utf8.encodeChars rest := by
    rw [Utf8.encode, hrest]
    rfl
  rw [Pathname.start, hbytes]
  rfl

theorem names_name (hname : '/' ∉ name.toList) (hne : name ≠ "") :
    Pathname.names name = [Utf8.encode name] := by
  have hnonempty : Utf8.encode name ≠ [] := fun hnil => hne (Utf8.encode_eq_nil_iff.1 hnil)
  have hsplit : (Utf8.encode name).splitOn slash = [Utf8.encode name] :=
    List.splitOn_eq_singleton (slash_notMem hname)
  rw [Pathname.names, hsplit]
  simp [hnonempty]

theorem forall_visited_join (hbase : base ≠ "") (hpath : Path.isAbsolute path = false)
    (hne : Pathname.names path ≠ []) (P : Place → Prop) :
    (∀ q ∈ Pathname.visited (Path.join base path) workingDir, P q) ↔
      (∀ q ∈ Pathname.visited base workingDir, P q) ∧
        ((Pathname.target base workingDir).2.isSome → P (Pathname.place base workingDir)) ∧
        ∀ q ∈ File.visited (Pathname.place base workingDir) (Pathname.names path), P q := by
  rw [Pathname.visited, names_join hbase hpath, start_join hbase hpath]
  exact forall_visited_append _ _ hne P

theorem target_join (hbase : base ≠ "") (hpath : Path.isAbsolute path = false)
    (hne : Pathname.names path ≠ []) :
    Pathname.target (Path.join base path) workingDir =
      File.target (Pathname.place base workingDir) (Pathname.names path) := by
  rw [Pathname.target, names_join hbase hpath, start_join hbase hpath, target_append _ _ hne]
  rfl

/-- A name behind a path goes through where the path leads to, and nowhere else. -/
theorem forall_visited_name (hbase : base ≠ "") (hname : '/' ∉ name.toList) (hne : name ≠ "")
    (P : Place → Prop) :
    (∀ q ∈ Pathname.visited (Path.join base name) workingDir, P q) ↔
      (∀ q ∈ Pathname.visited base workingDir, P q) ∧
        ((Pathname.target base workingDir).2.isSome → P (Pathname.place base workingDir)) := by
  have hnames := names_name hname hne
  rw [forall_visited_join hbase (isAbsolute_eq_false hname) (by simp [hnames]), hnames]
  simp [File.visited]

end Join

/-- A path without slashes has only one name, and one that is put behind its last slash ends in
one. -/
theorem leading_of_notMem {bytes : List UInt8} (h : slash ∉ bytes) :
    Pathname.leading ⟨bytes⟩ = [] := by
  have hsplit : bytes.splitOn slash = [bytes] := List.splitOn_eq_singleton h
  rw [Pathname.leading, hsplit]
  rfl

theorem exists_names_behind (bytes : List UInt8) {rest : List UInt8} (hslash : slash ∉ rest)
    (hne : rest ≠ []) :
    ∃ final, Pathname.names ⟨bytes ++ rest⟩ = Pathname.leading ⟨bytes⟩ ++ [final] := by
  have hfinal (tail : List UInt8) (htail : slash ∉ tail) :
      (tail ++ rest).splitOn slash = [tail ++ rest] :=
    List.splitOn_eq_singleton (by simp [htail, hslash])
  by_cases hbytes : slash ∈ bytes
  · obtain ⟨tail, before, hreverse, htail⟩ := List.eq_append_cons_of_mem (List.mem_reverse.2 hbytes)
    have hcut : bytes = before.reverse ++ slash :: tail.reverse := by
      rw [← List.reverse_reverse bytes, hreverse]
      simp
    have htail' : slash ∉ tail.reverse := by simpa using htail
    have hsplit : tail.reverse.splitOn slash = [tail.reverse] := List.splitOn_eq_singleton htail'
    refine ⟨tail.reverse ++ rest, ?_⟩
    rw [hcut, Pathname.names, Pathname.leading, List.append_assoc, List.cons_append, splitOn_slash,
      splitOn_slash, hfinal _ htail', hsplit, List.dropLast_concat, List.filter_append]
    simp [hne]
  · refine ⟨bytes ++ rest, ?_⟩
    rw [leading_of_notMem hbytes, Pathname.names, hfinal _ hbytes]
    simp [hne]

section Below

variable {base path name : String} {workingDir : Place}

/-- A name behind a path leads through where the path leads to, and below it if it stands for
itself. -/
theorem through_join (hbase : base ≠ "") (hground : Pathname.Ground base workingDir)
    (hname : '/' ∉ name.toList) (hne : name ≠ "") :
    Pathname.Through (Path.join base name) (Pathname.place base workingDir) workingDir := by
  by_contra hthrough
  obtain ⟨above, last, htarget⟩ := hground.named
  have havoids := (forall_visited_name hbase hname hne _).1 (Pathname.not_through_iff.1 hthrough).1
  exact havoids.2 (by rw [htarget]; rfl) List.prefix_rfl

theorem place_join (hbase : base ≠ "") (hname : '/' ∉ name.toList) (hne : name ≠ "")
    (hground : Pathname.Ground (Path.join base name) workingDir) :
    Pathname.place base workingDir <+: Pathname.place (Path.join base name) workingDir := by
  have hnames := names_name hname hne
  obtain ⟨above, last, htarget⟩ := hground.named
  have hplace : Pathname.place (Path.join base name) workingDir = above ++ [last] := by
    rw [Pathname.place, htarget]
    rfl
  rw [target_join hbase (isAbsolute_eq_false hname) (by simp [hnames]), hnames, File.target,
    if_pos rfl] at htarget
  rw [hplace]
  split_ifs at htarget
  · cases htarget
  · cases htarget
  · cases htarget
    exact List.prefix_append _ _

/-- The path of a directory that is named by a text goes through another one only if the directory
that it is put in does, if the text has its name before a slash, or if it is that directory. -/
theorem not_through_join {stem other : String} (hbase : base ≠ "") (hname : '/' ∉ name.toList)
    (hne : name ≠ "") (hground : Pathname.Ground (Path.join base (stem ++ name)) workingDir)
    (hother : Pathname.Ground other workingDir)
    (hapart : ¬Pathname.Through base (Pathname.place other workingDir) workingDir)
    (hstem : ∀ last, (Pathname.names other).getLast? = some last → last ∉ Pathname.leading stem)
    (hdiffers : Pathname.place other workingDir ≠
      Pathname.place (Path.join base (stem ++ name)) workingDir) :
    ¬Pathname.Through (Path.join base (stem ++ name)) (Pathname.place other workingDir)
      workingDir := by
  obtain ⟨above, last, htarget⟩ := hother.named
  have hlast : (Pathname.place other workingDir).getLast? = some last := by
    rw [Pathname.place, htarget, destination, Option.toList_some, List.getLast?_concat]
  obtain ⟨final, hnames⟩ := exists_names_behind (Utf8.encode stem) (slash_notMem hname)
    (fun hnil => hne (Utf8.encode_eq_nil_iff.1 hnil))
  rw [← Utf8.encode_append] at hnames
  have hfinal := hstem last (getLast?_of_target htarget)
  obtain ⟨havoids, havoids'⟩ := Pathname.not_through_iff.1 hapart
  have hway : (∀ q ∈ Pathname.visited (Path.join base (stem ++ name)) workingDir,
      ¬Pathname.place other workingDir <+: q) ∧ ¬Pathname.place other workingDir <+:
        (Pathname.target (Path.join base (stem ++ name)) workingDir).1 := by
    by_cases habsolute : Path.isAbsolute (stem ++ name) = true
    · rw [Path.join, if_pos habsolute, Pathname.visited, Pathname.target, hnames,
        start_of_isAbsolute habsolute]
      refine visited_names hlast hfinal ?_ final
      intro hbelow
      rw [List.prefix_nil.1 hbelow] at hlast
      cases hlast
    · have hrelative := Bool.eq_false_of_not_eq_true habsolute
      have hmore : Pathname.names ((stem ++ name : String)) ≠ [] := by
        rw [hnames]
        simp
      obtain ⟨hvisited, habove⟩ := visited_names hlast hfinal havoids' final
      rw [target_join hbase hrelative hmore, hnames]
      rw [← hnames] at hvisited
      exact ⟨(forall_visited_join hbase hrelative hmore _).2 ⟨havoids, fun _ => havoids', hvisited⟩,
        habove⟩
  refine Pathname.not_through_iff.2 ⟨hway.1, fun hbelow => ?_⟩
  obtain ⟨above', last', htarget'⟩ := hground.named
  have hplace' : Pathname.place (Path.join base (stem ++ name)) workingDir = above' ++ [last'] := by
    rw [Pathname.place, htarget']
    rfl
  rw [hplace'] at hbelow hdiffers
  rw [htarget'] at hway
  exact (List.prefix_concat_iff.1 hbelow).elim hdiffers hway.2

end Below

end Tree
end DaemonDialogue.File
