import DaemonDialogue.Node.Lifecycle
import DaemonDialogue.Proofs.File.Tree

/-!
# Nodes that share the path of a socket

Nodes that start and stop at one path take no heed of each other: a node that starts removes what
is at the path, and so does a node that stops. The socket that was bound last is therefore there
until the next removal, whoever that is by, and no other socket is there behind it.
-/

namespace DaemonDialogue

namespace File.Tree

/-- Is the socket of a listener at a path, or no more than a directory? The path is known to have
been free in a smaller tree. -/
def Holds (path : Pathname) (t : Tree) (listener? : Option Nat) : Prop :=
  ∃ (base : Tree) (above : Place) (name : Name),
    base.locate path = .ok (.named above name none false) ∧ base.Grows t ∧
      match listener? with
      | some listener => t.root.at? (above ++ [name]) = some (.socket listener)
      | none => ∀ e, t.root.at? (above ++ [name]) = some e → e.isDirectory = true

variable {path : Pathname} {t t' : Tree} {listener? : Option Nat}

theorem Holds.keeps (h : Holds path t listener?) (hkeeps : t.Keeps t') :
    Holds path t' listener? := by
  obtain ⟨base, above, name, hfree, hgrows, hplace⟩ := h
  refine ⟨base, above, name, hfree, hgrows.trans hkeeps.toGrows, ?_⟩
  cases listener? with
  | some listener =>
    obtain ⟨e, he, hstays⟩ := hkeeps.root _ _ hplace
    obtain rfl := hstays.eq rfl
    exact he
  | none =>
    intro e he
    rcases hkeeps.added _ e he with hdirectory | hold
    · exact hdirectory
    · exact hplace e hold

theorem Holds.unlisten (h : Holds path t listener?) (other : Nat) :
    Holds path (t.unlisten other) listener? := by
  obtain ⟨base, above, name, hfree, hgrows, hplace⟩ := h
  exact ⟨base, above, name, hfree, ⟨hgrows.root, hgrows.workingDir⟩, hplace⟩

theorem Holds.removed (h : Holds path t listener?) :
    Holds path ((t.removeFile path).toOption.getD t) none := by
  obtain ⟨base, above, name, hfree, hgrows, -⟩ := h
  have hremove := removeFile_eq (locate_grows hgrows hfree).2
  refine ⟨base, above, name, hfree, ?_⟩
  cases hplace : t.root.at? (above ++ [name]) with
  | none =>
    rw [hplace] at hremove
    rw [hremove]
    exact ⟨hgrows, fun e he => by cases hplace.symm.trans he⟩
  | some e =>
    rw [hplace, Option.elim_some] at hremove
    rw [hremove]
    cases hdirectory : e.isDirectory with
    | true =>
      refine ⟨hgrows, fun e' he' => ?_⟩
      cases hplace.symm.trans he'
      exact hdirectory
    | false =>
      have hnone : (t.root.put (above ++ [name]) none).at? (above ++ [name]) = none := by
        simpa using t.root.at?_put_none (List.concat_ne_nil name above) []
      exact ⟨⟨hgrows.root.put (has_of_locate hfree) none, hgrows.workingDir⟩,
        fun e' he' => by cases hnone.symm.trans he'⟩

theorem Rooted.removed (h : t.Rooted) (path : Pathname) :
    ((t.removeFile path).toOption.getD t).Rooted := by
  cases hremove : t.removeFile path with
  | error fault => exact h
  | ok removed => exact h.removeFile hremove

theorem holds_of_bind (hrooted : t.Rooted) {listener : Nat} (h : t.bind path listener = .ok t') :
    t.Grows t' ∧ Holds path t' (some listener) := by
  rw [bind] at h
  split_ifs at h
  cases hspot : t.locate path with
  | error fault =>
    rw [hspot] at h
    cases h
  | ok spot =>
    rw [hspot] at h
    rcases spot with _ | ⟨above, name, _ | found, _ | _⟩
    · cases h
    · cases h
      have hgrows : t.Grows { t.put (above ++ [name]) (some (.socket listener)) with
          listening := listener :: t.listening } :=
        ⟨Entry.grows_put (has_of_locate hspot) _, rfl⟩
      obtain ⟨entries, hentries⟩ := hrooted.exists_directory hspot
      exact ⟨hgrows, t, above, name, hspot, hgrows, Entry.at?_put_some hentries name _⟩
    all_goals cases h

theorem Holds.find_iff (h : Holds path t listener?) (listener : Nat) :
    t.find path = .ok (.socket listener) ↔ listener? = some listener := by
  obtain ⟨base, above, name, hfree, hgrows, hplace⟩ := h
  have hlocate := (locate_grows hgrows hfree).2
  cases listener? with
  | some other =>
    rw [seen, hplace] at hlocate
    rw [find_named hlocate rfl]
    simp
  | none =>
    refine ⟨fun h => ?_, fun h => (Option.some_ne_none _ h.symm).elim⟩
    rcases exists_spot h with ⟨_, h⟩ | ⟨_, _, _, h, -⟩
    · cases hlocate.symm.trans h
    · rw [seen] at hlocate
      injection hlocate.symm.trans h with h
      injection h with habove hname hfound
      cases hplace _ hfound

end File.Tree

namespace Node

open File (Tree)

/-! ## Nodes that take turns -/

/-- How far a node has come with its socket. -/
inductive SocketPhase
  | waiting
  | prepared
  | cleared
  | serving (listener : Nat)
  | leaving (listener : Nat)
  | gone
  deriving DecidableEq, Repr

def SocketPhase.listener? : SocketPhase → Option Nat
  | .serving listener | .leaving listener => some listener
  | _ => none

/-- What a node has done at the path: removed what was there when it started, bound its socket, or
removed what was there when it stopped. -/
inductive Touch
  | cleared (node : Nat)
  | bound (node listener : Nat)
  | closed (node : Nat)
  deriving DecidableEq, Repr

def Touch.binder? : Touch → Option (Nat × Nat)
  | .bound node listener => some (node, listener)
  | _ => none

/-- A machine, how far each node on it has come, and what they did at the path, the last first. -/
structure Shared where
  site : Site
  phase : Nat → SocketPhase := fun _ => .waiting
  touches : List Touch := []

namespace Shared

/-- The same machine where a node has come further. -/
def reach (s : Shared) (n : Nat) (phase : SocketPhase) : Shared :=
  { s with phase := Function.update s.phase n phase }

/-- The same machine where something was done at the path. -/
def touch (s : Shared) (touch : Touch) (site : Site) : Shared :=
  { s with site, touches := touch :: s.touches }

variable (path : String) (node : Nat → Info)

/-- Lets a node do what it does next; a node that fails to start is gone. -/
def step (s : Shared) (n : Nat) : Shared :=
  match s.phase n with
  | .waiting =>
    match s.site.makeDirectory ((Path.parent? path).getD "") with
    | (site, .ok ()) => { s with site }.reach n .prepared
    | (site, .error _) => { s with site }.reach n .gone
  | .prepared =>
    match s.site.clearSocket path with
    | .ok site => (s.touch (.cleared n) site).reach n .cleared
    | .error _ => s.reach n .gone
  | .cleared =>
    let listener := s.site.host.nextListener
    match s.site.openSocket path listener with
    | .ok site =>
      (s.touch (.bound n listener) (site.register (node n))).reach n (.serving listener)
    | .error _ => s.reach n .gone
  | .serving listener => s.reach n (.leaving listener)
  | .leaving listener => (s.touch (.closed n) (s.site.closeSocket listener path)).reach n .gone
  | .gone => s

def run (s : Shared) (turns : List Nat) : Shared := turns.foldl (step path node) s

/-- The node that bound the path last, and the number under which it listens. -/
def latest? (s : Shared) : Option (Nat × Nat) := s.touches.findSome? Touch.binder?

/-- The listener whose socket nobody has touched since it was bound. -/
def untouched? (s : Shared) : Option Nat := (s.touches.head?.bind Touch.binder?).map (·.2)

variable {path : String} {node : Nat → Info} {s : Shared}

@[simp]
theorem site_reach (s : Shared) (n : Nat) (phase : SocketPhase) :
    (s.reach n phase).site = s.site := rfl

@[simp]
theorem touches_reach (s : Shared) (n : Nat) (phase : SocketPhase) :
    (s.reach n phase).touches = s.touches := rfl

@[simp]
theorem phase_reach (s : Shared) (n : Nat) (phase : SocketPhase) :
    (s.reach n phase).phase n = phase := by
  simp [reach]

theorem phase_reach_other (s : Shared) {n m : Nat} (h : m ≠ n) (phase : SocketPhase) :
    (s.reach n phase).phase m = s.phase m := by
  simp [reach, h]

/-- A node that nobody interrupts opens its socket as a whole. -/
theorem run_start {n : Nat} (h : s.phase n = .waiting) :
    let opened := s.site.bindSocket (node n) path
    let behind := s.run path node [n, n, n]
    behind.site = opened.1 ∧ behind.phase n = opened.2.toOption.elim .gone .serving := by
  simp only [run, List.foldl_cons, List.foldl_nil]
  -- Its equation takes Lean long to prove.
  delta Site.bindSocket
  cases hmade : s.site.makeDirectory ((Path.parent? path).getD "") with
  | mk made result =>
    cases result with
    | error cause => simp [step, h, hmade, Except.toOption]
    | ok _ =>
      cases hcleared : made.clearSocket path with
      | error cause => simp [step, h, hmade, hcleared, Except.toOption]
      | ok cleared =>
        cases hopened : cleared.openSocket path cleared.host.nextListener with
        | error cause => simp [step, h, hmade, hcleared, hopened, touch, Except.toOption]
        | ok opened => simp [step, h, hmade, hcleared, hopened, touch, Except.toOption]

/-- A node that nobody interrupts closes its socket as a whole. -/
theorem run_stop {n listener : Nat} (h : s.phase n = .serving listener) :
    let behind := s.run path node [n, n]
    behind.site = s.site.closeSocket listener path ∧ behind.phase n = .gone := by
  simp [run, step, h, touch]

/-! ## What every turn keeps -/

/-- What holds behind any turns: every node that listens does so under a number of its own, whoever
touched the path last either listens at it or does not listen, and once a node has bound the path,
the path holds the socket that is untouched, or none. -/
structure Sound (path : String) (s : Shared) : Prop where
  rooted : s.site.host.files.Rooted
  holds : s.latest?.isSome = true → Tree.Holds path s.site.host.files s.untouched?
  own : ∀ n k, .bound n k ∈ s.touches → s.phase n = .gone ∨ (s.phase n).listener? = some k
  fresh : ∀ n k, (s.phase n).listener? = some k → k < s.site.host.nextListener
  distinct : ∀ n m k, (s.phase n).listener? = some k → (s.phase m).listener? = some k → m = n
  silent : ∀ m, s.touches.head? = some (.cleared m) ∨ s.touches.head? = some (.closed m) →
    (s.phase m).listener? = none

theorem Sound.start {site : Site} (h : site.host.files.Rooted) : Sound path { site } where
  rooted := h
  holds := fun h => nomatch h
  own := fun _ _ h => nomatch h
  fresh := fun _ _ h => nomatch h
  distinct := fun _ _ _ h => nomatch h
  silent := fun _ h => by simp at h

theorem Sound.keeps (h : Sound path s) {site : Site}
    (hkeeps : s.site.host.files.Keeps site.host.files)
    (hnumber : site.host.nextListener = s.site.host.nextListener) :
    Sound path { s with site } :=
  { h with
    rooted := h.rooted.keeps hkeeps.toGrows
    holds := fun hlatest => (h.holds hlatest).keeps hkeeps
    fresh := fun n k hk => hnumber ▸ h.fresh n k hk }

theorem listener?_reach {n : Nat} {phase : SocketPhase}
    (h : phase.listener? = (s.phase n).listener?)
    (m : Nat) : ((s.reach n phase).phase m).listener? = (s.phase m).listener? := by
  by_cases hm : m = n
  · rw [hm, phase_reach, h]
  · rw [phase_reach_other s hm]

theorem Sound.reach (h : Sound path s) {n : Nat} {phase : SocketPhase} (hphase : s.phase n ≠ .gone)
    (hlistener : phase.listener? = (s.phase n).listener?) : Sound path (s.reach n phase) where
  rooted := h.rooted
  holds := h.holds
  own := fun m k hm => by
    rw [listener?_reach hlistener]
    by_cases hmn : m = n
    · exact .inr ((h.own m k hm).resolve_left (hmn ▸ hphase))
    · rw [phase_reach_other s hmn]
      exact h.own m k hm
  fresh := fun m k hk => h.fresh m k (listener?_reach hlistener m ▸ hk)
  distinct := fun m m' k hk hk' =>
    h.distinct m m' k (listener?_reach hlistener m ▸ hk) (listener?_reach hlistener m' ▸ hk')
  silent := fun m hm => (listener?_reach hlistener m).trans (h.silent m hm)

theorem Sound.removed (h : Sound path s) {n : Nat} {phase : SocketPhase} {touch : Touch}
    {site : Site}
    (htouch : touch = .cleared n ∨ touch = .closed n) (hn : s.phase n ≠ .gone)
    (hown : phase = .gone ∨ (s.phase n).listener? = none) (hsilent : phase.listener? = none)
    (hrooted : site.host.files.Rooted)
    (hholds : ∀ held, Tree.Holds path s.site.host.files held →
      Tree.Holds path site.host.files none)
    (hnumber : site.host.nextListener = s.site.host.nextListener) :
    Sound path ((s.touch touch site).reach n phase) := by
  have hbinder : touch.binder? = none := by rcases htouch with rfl | rfl <;> rfl
  have hlistener (m k : Nat)
      (hk : (((s.touch touch site).reach n phase).phase m).listener? = some k) :
      (s.phase m).listener? = some k := by
    by_cases hm : m = n
    · rw [hm, phase_reach, hsilent] at hk
      cases hk
    · rwa [phase_reach_other _ hm] at hk
  refine ⟨hrooted, fun hlatest => ?_, fun m k hm => ?_, fun m k hk => ?_,
    fun m m' k hk hk' => ?_, fun m hm => ?_⟩
  · have hheld : ((s.touch touch site).reach n phase).untouched? = none := by
      simp [untouched?, Shared.touch, hbinder]
    rw [hheld]
    refine hholds _ (h.holds ?_)
    simpa [latest?, Shared.touch, hbinder] using hlatest
  · have hbound : .bound m k ∈ s.touches := by
      rcases htouch with rfl | rfl <;> simpa [Shared.touch] using hm
    by_cases hmn : m = n
    · subst hmn
      rcases hown with hgone | hnone
      · exact .inl (by rw [phase_reach, hgone])
      · cases hnone.symm.trans ((h.own m k hbound).resolve_left hn)
    · rw [phase_reach_other _ hmn]
      exact h.own m k hbound
  · exact hnumber ▸ h.fresh m k (hlistener m k hk)
  · exact h.distinct m m' k (hlistener m k hk) (hlistener m' k hk')
  · have hmn : m = n := by
      rcases htouch with rfl | rfl <;> simpa [Shared.touch, eq_comm] using hm
    rw [hmn, phase_reach, hsilent]

theorem clearSocket_files {site cleared : Site} (h : site.clearSocket path = .ok cleared) :
    cleared.host.files = (site.host.files.removeFile path).toOption.getD site.host.files ∧
      cleared.host.nextListener = site.host.nextListener := by
  rw [Site.clearSocket] at h
  split at h
  · next files hremove =>
    cases h
    rw [hremove]
    exact ⟨rfl, rfl⟩
  · next hremove =>
    cases h
    rw [hremove]
    exact ⟨rfl, rfl⟩
  · cases h

theorem Sound.cleared (h : Sound path s) {n : Nat} (hphase : s.phase n = .prepared) {site : Site}
    (hcleared : s.site.clearSocket path = .ok site) :
    Sound path ((s.touch (.cleared n) site).reach n .cleared) := by
  obtain ⟨hfiles, hnumber⟩ := clearSocket_files hcleared
  refine h.removed (.inl rfl) (by simp [hphase]) (.inr (by rw [hphase]; rfl)) rfl ?_ ?_ hnumber
  · rw [hfiles]
    exact h.rooted.removed path
  · intro held hheld
    rw [hfiles]
    exact hheld.removed

theorem Sound.closed (h : Sound path s) {n listener : Nat}
    (hphase : s.phase n = .leaving listener) :
    Sound path ((s.touch (.closed n) (s.site.closeSocket listener path)).reach n .gone) := by
  refine h.removed (.inr rfl) (by simp [hphase]) (.inl rfl) rfl ?_ ?_ rfl
  · exact h.rooted.removed path
  · intro held hheld
    exact hheld.removed.unlisten listener

theorem Sound.bound (h : Sound path s) {n : Nat} (hphase : s.phase n = .cleared) {site : Site}
    (hopened : s.site.openSocket path s.site.host.nextListener = .ok site) (info : Info) :
    Sound path ((s.touch (.bound n s.site.host.nextListener) (site.register info)).reach n
      (.serving s.site.host.nextListener)) := by
  obtain ⟨files, hbind, rfl⟩ : ∃ files,
      s.site.host.files.bind path s.site.host.nextListener = .ok files ∧
        site = s.site.withFiles files := by
    rw [Site.openSocket] at hopened
    cases hbind : s.site.host.files.bind path s.site.host.nextListener with
    | error cause =>
      rw [hbind] at hopened
      cases hopened
    | ok files =>
      rw [hbind] at hopened
      cases hopened
      exact ⟨files, rfl, rfl⟩
  obtain ⟨hgrows, hholds⟩ := Tree.holds_of_bind h.rooted hbind
  have hunbound (k : Nat) : .bound n k ∉ s.touches := by
    intro hk
    rcases h.own n k hk with hgone | hlistener
    · cases hphase.symm.trans hgone
    · rw [hphase] at hlistener
      cases hlistener
  have hlistener (m k : Nat)
      (hk : (((s.touch (.bound n s.site.host.nextListener)
        ((s.site.withFiles files).register info)).reach n
          (.serving s.site.host.nextListener)).phase m).listener? = some k) :
      m = n ∧ k = s.site.host.nextListener ∨ (s.phase m).listener? = some k := by
    by_cases hmn : m = n
    · rw [hmn, phase_reach] at hk
      exact .inl ⟨hmn, (Option.some.inj hk).symm⟩
    · rw [phase_reach_other _ hmn] at hk
      exact .inr hk
  refine ⟨h.rooted.keeps hgrows, fun _ => hholds, fun m k hm => ?_, fun m k hk => ?_,
    fun m m' k hk hk' => ?_, fun m hm => by simp [Shared.touch] at hm⟩
  · rcases List.mem_cons.1 hm with hnew | hold
    · cases hnew
      exact .inr (by rw [phase_reach]; rfl)
    · have hmn : m ≠ n := fun hmn => hunbound k (hmn ▸ hold)
      rw [phase_reach_other _ hmn]
      exact h.own m k hold
  · change k < s.site.host.nextListener + 1
    rcases hlistener m k hk with ⟨-, rfl⟩ | hold
    · exact Nat.lt_succ_self _
    · exact Nat.lt_succ_of_lt (h.fresh m k hold)
  · rcases hlistener m k hk with ⟨rfl, rfl⟩ | hold <;>
      rcases hlistener m' _ hk' with ⟨hlast, hnumber⟩ | hold'
    · exact hlast
    · exact absurd (h.fresh m' _ hold') (Nat.lt_irrefl _)
    · exact absurd (hnumber ▸ h.fresh m k hold) (Nat.lt_irrefl _)
    · exact h.distinct m m' k hold hold'

theorem makeDirectory_keeps (site : Site) (path : String) :
    let made := site.makeDirectory path
    site.host.files.Keeps made.1.host.files ∧
      made.1.host.nextListener = site.host.nextListener :=
  ⟨File.Tree.createDirectories_keeps site.host.files path, rfl⟩

theorem Sound.step (h : Sound path s) (n : Nat) : Sound path (s.step path node n) := by
  rw [Shared.step]
  cases hphase : s.phase n with
  | waiting =>
    obtain ⟨hkeeps, hnumber⟩ := makeDirectory_keeps s.site ((Path.parent? path).getD "")
    have hmade := h.keeps hkeeps hnumber
    dsimp only
    split
    · next site hsite =>
      rw [hsite] at hmade
      exact hmade.reach (by simp [hphase]) (by simp [hphase, SocketPhase.listener?])
    · next site cause hsite =>
      rw [hsite] at hmade
      exact hmade.reach (by simp [hphase]) (by simp [hphase, SocketPhase.listener?])
  | prepared =>
    dsimp only
    split
    · next site hcleared => exact h.cleared hphase hcleared
    · exact h.reach (by simp [hphase]) (by simp [hphase, SocketPhase.listener?])
  | cleared =>
    dsimp only
    split
    · next site hopened => exact h.bound hphase hopened (node n)
    · exact h.reach (by simp [hphase]) (by simp [hphase, SocketPhase.listener?])
  | serving listener => exact h.reach (by simp [hphase]) (by simp [hphase, SocketPhase.listener?])
  | leaving listener => exact h.closed hphase
  | gone => exact h

theorem Sound.run (h : Sound path s) (turns : List Nat) : Sound path (s.run path node turns) := by
  induction turns generalizing s with
  | nil => exact h
  | cons n turns ih => exact ih (h.step n)

/-! ## The socket that was bound last -/

theorem mem_of_latest? {n k : Nat} (h : s.latest? = some (n, k)) : .bound n k ∈ s.touches := by
  obtain ⟨touch, hmem, htouch⟩ := List.exists_of_findSome?_eq_some h
  cases touch <;> cases htouch
  exact hmem

/-- Whoever bound the path last is the last to have touched it, or the last to have done so has
removed what was there. -/
theorem last_touch {n k : Nat} (h : s.latest? = some (n, k)) :
    s.touches.head? = some (.bound n k) ∧ s.untouched? = some k ∨
      (∃ m, s.touches.head? = some (.cleared m) ∨ s.touches.head? = some (.closed m)) ∧
        s.untouched? = none := by
  unfold latest? at h
  unfold untouched?
  cases htouches : s.touches with
  | nil =>
    rw [htouches] at h
    cases h
  | cons touch rest =>
    rw [htouches] at h
    cases touch with
    | bound m j =>
      cases h
      exact .inl ⟨rfl, rfl⟩
    | cleared m => exact .inr ⟨⟨m, .inl rfl⟩, rfl⟩
    | closed m => exact .inr ⟨⟨m, .inr rfl⟩, rfl⟩

/-- While the node that bound the path last has not stopped, the path holds the socket of that node
exactly if nobody has touched it since. Otherwise another node has, and no socket is there. -/
theorem latest_socket (path : String) (node : Nat → Info) (site : Site)
    (h : site.host.files.Rooted) (turns : List Nat) :
    let s := Shared.run path node { site } turns
    ∀ n k, s.latest? = some (n, k) → s.phase n ≠ .gone →
      ((s.phase n).listener? = some k ∧ ∀ m, (s.phase m).listener? = some k → m = n) ∧
      (s.site.host.files.find path = .ok (.socket k) ↔ s.touches.head? = some (.bound n k)) ∧
      (s.touches.head? ≠ some (.bound n k) →
        (∃ m ≠ n, s.touches.head? = some (.cleared m) ∨ s.touches.head? = some (.closed m)) ∧
          ∀ j, s.site.host.files.find path ≠ .ok (.socket j)) := by
  intro s n k hlatest hphase
  have hsound : Sound path s := (Sound.start h).run turns
  clear_value s
  have hlistener : (s.phase n).listener? = some k :=
    (hsound.own n k (mem_of_latest? hlatest)).resolve_left hphase
  have hfind := (hsound.holds (by rw [hlatest]; rfl)).find_iff
  refine ⟨⟨hlistener, fun m hm => hsound.distinct n m k hlistener hm⟩, ?_⟩
  rcases last_touch hlatest with ⟨hhead, hheld⟩ | ⟨⟨m, hhead⟩, hheld⟩
  · exact ⟨by simp [hfind, hheld, hhead], fun hother => absurd hhead hother⟩
  · have hmn : m ≠ n := by
      rintro rfl
      cases hlistener.symm.trans (hsound.silent m hhead)
    have hnone (j : Nat) : s.site.host.files.find path ≠ .ok (.socket j) := by
      simp [hfind, hheld]
    refine ⟨⟨fun h => absurd h (hnone k), fun h => ?_⟩, fun _ => ⟨⟨m, hmn, hhead⟩, hnone⟩⟩
    rcases hhead with hhead | hhead <;> cases hhead.symm.trans h

/-- Behind some turns of nodes at one path of an empty machine. -/
def onEmpty (turns : List Nat) : Shared :=
  Shared.run "/n.ipc" (fun _ => Settings.identity { datadir := "/d" } .goerli)
    { site := { host := { files := {} } } } turns

/-- A node that starts when the one before it is gone keeps its socket. -/
theorem latest_socket_in_turn :
    (onEmpty [0, 0, 0, 0, 0, 1, 1, 1]).latest? = some (1, 1) ∧
      (onEmpty [0, 0, 0, 0, 0, 1, 1, 1]).phase 1 ≠ .gone ∧
      (onEmpty [0, 0, 0, 0, 0, 1, 1, 1]).site.host.files.find "/n.ipc" = .ok (.socket 1) := by
  have hlatest : (onEmpty [0, 0, 0, 0, 0, 1, 1, 1]).latest? = some (1, 1) := by decide +kernel
  have hphase : (onEmpty [0, 0, 0, 0, 0, 1, 1, 1]).phase 1 ≠ .gone := by decide +kernel
  have htouch : (onEmpty [0, 0, 0, 0, 0, 1, 1, 1]).touches.head? = some (.bound 1 1) := by
    decide +kernel
  refine ⟨hlatest, hphase, ?_⟩
  unfold onEmpty at hlatest hphase htouch ⊢
  have hsocket := latest_socket _ _ { host := { files := {} } } ⟨[], rfl⟩ _ _ _ hlatest hphase
  exact hsocket.2.1.2 htouch

/-- A node that starts before the one before it is gone loses its socket when that one stops, and a
node loses it as soon as another one starts. -/
theorem latest_socket_lost :
    let stopped := onEmpty [0, 0, 0, 1, 1, 1, 0, 0]
    let started := onEmpty [0, 0, 0, 1, 1]
    (stopped.latest? = some (1, 1) ∧ stopped.phase 1 = .serving 1 ∧
        stopped.site.host.files.contains "/n.ipc" = false) ∧
      started.latest? = some (0, 0) ∧ started.phase 0 = .serving 0 ∧
        started.site.host.files.contains "/n.ipc" = false := by
  decide +kernel

end Shared
end Node
end DaemonDialogue
