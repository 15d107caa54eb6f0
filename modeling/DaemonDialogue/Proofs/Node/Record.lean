import DaemonDialogue.Proofs.File.Directory
import DaemonDialogue.Proofs.Node.Genesis
import DaemonDialogue.Proofs.Text.Place

/-!
# Runs on a record

A run that names a chain compares it with the record, its name and its hash. A run that names none
goes by the name in the record alone, and by the second name that a chain may have. So it comes to
a chain wherever a run that names this chain does, and on records that such a run refuses, too.
Either run ends without a result where it has to show a hash that is cut within a character, but
no run changes a file that is there.
-/

namespace DaemonDialogue.Node.Premises

variable {p : Premises} {datadir path : String} {stored : GenesisRecord} {c chain : Chain}

/-- Is a hash not shown in the journal, or one that can be shown? -/
def Shows (p : Premises) (hash : String) : Prop :=
  p.journal.visible .chain .info = true → ∃ short, shortHash? hash = some short

theorem exists_noteHash_iff (p : Premises) (before hash : String) :
    (∃ noted, p.noteHash before hash = some noted) ↔ p.Shows hash := by
  rw [Shows, noteHash]
  split_ifs with hvisible
  · simp [hvisible, Option.map_eq_some_iff]
  · simp [hvisible]

/-- A run that goes on with the record it found comes to its chain, unless it cannot show the hash
of the record. -/
theorem found_done_iff : (p.found stored chain).2 = .done c ↔ chain = c ∧ p.Shows stored.genesisHash := by
  rw [← exists_noteHash_iff p s!"Found stored genesis block chain={stored.chain} hash="]
  constructor
  · intro h
    refine ⟨(found_eq h).symm, ?_⟩
    rw [found] at h
    split at h
    · exact ⟨_, ‹_›⟩
    · cases h
  · rintro ⟨rfl, noted, hnoted⟩
    rw [found, hnoted]

theorem refuse_ne_done (stored : GenesisRecord) (chosen chain : Chain) :
    refuse stored chosen ≠ .done chain := by
  unfold refuse
  split
  · nofun
  · nofun

theorem decide_unnamed_iff :
    (p.decide path none (some stored)).2 = .done c ↔
      Chain.named? stored.chain = some c ∧ p.Shows stored.genesisHash := by
  rw [Premises.decide]
  cases hnamed : Chain.named? stored.chain with
  | none => simp
  | some chain => simp [found_done_iff]

theorem decide_named_iff (hc : c ∈ Chain.all) :
    (p.decide path (some c) (some stored)).2 = .done c ↔ stored = .ofChain c := by
  rw [Premises.decide]
  split_ifs with hsame
  · obtain ⟨short, hshort⟩ := Chain.exists_shortHash hc
    refine iff_of_true (found_done_iff.2 ⟨rfl, fun _ => ?_⟩) hsame
    rw [hsame]
    exact ⟨short, hshort⟩
  · exact iff_of_false (refuse_ne_done _ _ _) hsame

/-- On a record of a chain, it makes no difference whether a run names the chain. -/
theorem decide_ofChain (hc : c ∈ Chain.all) :
    p.decide path (some c) (some (.ofChain c)) = p.decide path none (some (.ofChain c)) := by
  have hnamed : Chain.named? (GenesisRecord.ofChain c).chain = some c := Chain.named?_name c hc
  simp only [Premises.decide, hnamed, if_pos]

/-- On any record that can be read, a run that names a chain comes to it exactly if a run that
names none does and the record has both the name and the hash of the chain; what both do is then
the same. A run that names none asks for less: the record has the name of the chain, or its second
name, and any hash that can be shown where it is shown. -/
theorem resolve_named_iff
    (hload : GenesisRecord.load p.files (GenesisRecord.path datadir) = .ok (some stored))
    (hc : c ∈ Chain.all) :
    ((p.resolve datadir (some c)).2 = .done c ↔ (p.resolve datadir none).2 = .done c ∧
      stored.chain = c.name ∧ stored.genesisHash = c.genesisHash) ∧
    ((p.resolve datadir none).2 = .done c ↔
      Chain.named? stored.chain = some c ∧ p.Shows stored.genesisHash) ∧
    (stored.chain = c.name → stored.genesisHash = c.genesisHash →
      p.resolve datadir (some c) = p.resolve datadir none) := by
  have hrecord : stored = .ofChain c ↔
      stored.chain = c.name ∧ stored.genesisHash = c.genesisHash := by
    cases stored
    simp [GenesisRecord.ofChain]
  rw [resolve_load hload, resolve_load hload]
  refine ⟨?_, decide_unnamed_iff, fun hname hhash => ?_⟩
  · rw [decide_named_iff hc, ← hrecord]
    constructor
    · rintro rfl
      refine ⟨?_, rfl⟩
      rw [← decide_ofChain hc]
      exact (decide_named_iff hc).2 rfl
    · rintro ⟨-, hsame⟩
      exact hsame
  · obtain rfl := hrecord.2 ⟨hname, hhash⟩
    exact decide_ofChain hc

/-! ## Records that others wrote -/

/-- The files of a directory with a record in it, and nothing else. -/
def filesWith (r : GenesisRecord) : File.Tree where
  root := .directory [(Utf8.encode "d", .directory [(Utf8.encode "testnode",
    .directory [(Utf8.encode "chaindata", .directory [(Utf8.encode "GENESIS", .file 0)])])])]
  contents := [(0, ⟨r.content.toArray, false⟩)]
  nextFile := 1

theorem numbered_filesWith (r : GenesisRecord) : (filesWith r).Numbered := by
  intro place id hfile
  have hinner {name : File.Name} {e : File.Entry} {place : File.Place}
      (hplace : File.Entry.at? (.directory [(name, e)]) place = some (.file id)) :
      ∃ rest, e.at? rest = some (.file id) := by
    cases place with
    | nil => cases hplace
    | cons first rest =>
      obtain ⟨f, hf, hrest⟩ := Option.bind_eq_some_iff.1 hplace
      rw [File.Entry.child?, lookup_cons_eq] at hf
      split_ifs at hf
      · cases hf
        exact ⟨rest, hrest⟩
      · cases hf
  obtain ⟨_, hnode⟩ := hinner hfile
  obtain ⟨_, hchain⟩ := hinner hnode
  obtain ⟨_, hrecord⟩ := hinner hchain
  obtain ⟨rest, hlast⟩ := hinner hrecord
  cases rest with
  | nil =>
    cases hlast
    exact Nat.zero_lt_one
  | cons name rest => cases hlast

/-- A record with the hash of its chain. -/
theorem resolve_named_iff_goerli :
    let p : Premises := { files := filesWith (.ofChain .goerli) }
    GenesisRecord.load p.files (GenesisRecord.path "/d") = .ok (some (.ofChain .goerli)) ∧
      Chain.goerli ∈ Chain.all ∧ (p.resolve "/d" none).2 = .done .goerli ∧
      p.resolve "/d" (some .goerli) = p.resolve "/d" none := by
  intro p
  have hload : GenesisRecord.load p.files (GenesisRecord.path "/d") =
      .ok (some (.ofChain .goerli)) := GenesisRecord.load_content (by decide +kernel)
  have hknown : Chain.goerli ∈ Chain.all := by decide
  obtain ⟨-, hunnamed, hsame⟩ := resolve_named_iff hload hknown
  obtain ⟨short, hshort⟩ := Chain.exists_shortHash hknown
  exact ⟨hload, hknown, hunnamed.2 ⟨Chain.named?_name _ hknown, fun _ => ⟨short, hshort⟩⟩,
    hsame rfl rfl⟩

/-- A run that names no chain goes on, and one that names the chain is refused. -/
def GoesOnUnnamed (stored : GenesisRecord) (c : Chain) : Prop :=
  let p : Premises := { files := filesWith stored }
  GenesisRecord.load p.files (GenesisRecord.path "/d") = .ok (some stored) ∧
    (p.resolve "/d" none).2 = .done c ∧
    ∃ old new, (p.resolve "/d" (some c)).2 = .failed (.incompatible stored.chain old c.name new)

theorem goesOnUnnamed (hc : c ∈ Chain.all) {short : String}
    (hread : (filesWith stored).read (GenesisRecord.path "/d") = .ok stored.content)
    (hnamed : Chain.named? stored.chain = some c) (hne : stored ≠ .ofChain c)
    (hshort : shortHash? stored.genesisHash = some short) : GoesOnUnnamed stored c := by
  have hload : GenesisRecord.load (Premises.files { files := filesWith stored })
      (GenesisRecord.path "/d") = .ok (some stored) := GenesisRecord.load_content hread
  obtain ⟨new, hnew⟩ := Chain.exists_shortHash hc
  refine ⟨hload, ?_, short, new, ?_⟩
  · rw [resolve_load hload]
    exact decide_unnamed_iff.2 ⟨hnamed, fun _ => ⟨short, hshort⟩⟩
  · rw [resolve_load hload, Premises.decide, if_neg hne]
    exact refuse_failed hshort hnew

/-- A hash that is not that of the chain in the record, and a record with the second name of its
chain: a run on them that names no chain comes to a chain that no run may name. -/
theorem resolve_unnamed_goes_on :
    GoesOnUnnamed ⟨"goerli", "0x01"⟩ .goerli ∧
      GoesOnUnnamed ⟨"testnet", Chain.ropsten.genesisHash⟩ .ropsten := by
  obtain ⟨short, hshort⟩ := Chain.exists_shortHash (c := .ropsten) (by decide)
  constructor
  · exact goesOnUnnamed (by decide) (by decide +kernel) (by decide +kernel) (by decide +kernel)
      (by decide +kernel : shortHash? "0x01" = some "0x01")
  · exact goesOnUnnamed (by decide) (by decide +kernel) (by decide +kernel) (by decide +kernel)
      hshort

end Premises

/-! ## Hashes that are not shown -/

/-- Is a hash too long to be shown whole, and cut within a character where it is shortened? -/
def BadHash (hash : String) : Prop :=
  14 < (Utf8.encode hash).length ∧ (¬Utf8.Boundary hash.toList 8 ∨
    ¬Utf8.Boundary hash.toList ((Utf8.encode hash).length - 6))

theorem exists_shortHash_iff {hash : String} :
    (∃ short, shortHash? hash = some short) ↔ ¬BadHash hash := by
  unfold shortHash? BadHash
  dsimp only
  split_ifs with hwhole
  · exact iff_of_true ⟨hash, rfl⟩ fun hbad => absurd hwhole (Nat.not_le.2 hbad.1)
  · have hlong : 14 < (Utf8.encode hash).length := Nat.not_le.1 hwhole
    have height : 8 ≤ (Utf8.encode hash).length := by omega
    rw [← Utf8.strictDecode_take_iff hash height,
      ← Utf8.strictDecode_drop_iff hash (Nat.sub_le _ 6)]
    cases Utf8.strictDecode ((Utf8.encode hash).take 8) with
    | error fault => simp [hlong]
    | ok first =>
      cases Utf8.strictDecode
        ((Utf8.encode hash).drop ((Utf8.encode hash).length - 6)) <;> simp [hlong]

/-- What is shown of a hash: all of it, or its first eight and its last six bytes. -/
theorem encode_shortHash {hash short : String} (h : shortHash? hash = some short) :
    Utf8.encode short = if (Utf8.encode hash).length ≤ 14 then Utf8.encode hash
      else (Utf8.encode hash).take 8 ++ Utf8.encode "…" ++
        (Utf8.encode hash).drop ((Utf8.encode hash).length - 6) := by
  unfold shortHash? wholeHash at h
  dsimp only at h
  by_cases hwhole : (Utf8.encode hash).length ≤ 14
  · rw [if_pos hwhole] at h ⊢
    rw [Option.some.inj h]
  · rw [if_neg hwhole] at h ⊢
    split at h
    · next first last hfirst hlast =>
      cases h
      rw [Utf8.encode_append, Utf8.encode_append, Utf8.strictDecode_eq_ok_iff.1 hfirst,
        Utf8.strictDecode_eq_ok_iff.1 hlast]
    · cases h

namespace Premises

variable {p : Premises} {datadir path : String} {stored : GenesisRecord} {chain : Chain}
  {flag : Option Chain}

theorem shows_iff (hseen : p.journal.visible .chain .info = true) {hash : String} :
    p.Shows hash ↔ ¬BadHash hash := by
  rw [Shows, exists_shortHash_iff]
  exact ⟨fun h => h hseen, fun h _ => h⟩

theorem found_crashed_iff (hseen : p.journal.visible .chain .info = true) :
    (p.found stored chain).2 = .crashed ↔ BadHash stored.genesisHash := by
  rw [← not_iff_not, ← shows_iff hseen,
    ← exists_noteHash_iff p s!"Found stored genesis block chain={stored.chain} hash=", found]
  split
  · next noted hnoted => simp [hnoted]
  · next hnone => simp [hnone]

theorem refuse_crashed_iff (hchain : chain ∈ Chain.all) :
    refuse stored chain = .crashed ↔ BadHash stored.genesisHash := by
  obtain ⟨new, hnew⟩ := Chain.exists_shortHash hchain
  rw [← not_iff_not, ← exists_shortHash_iff, refuse, hnew]
  cases shortHash? stored.genesisHash <;> simp

theorem record_ne_crashed (p : Premises) (path : String) (chain : Chain) :
    (p.record path chain).2 ≠ .crashed := by
  unfold record
  split <;> nofun

theorem decide_crashed_iff (hseen : p.journal.visible .chain .info = true)
    (hknown : ∀ c ∈ flag, c ∈ Chain.all) :
    (p.decide path flag (some stored)).2 = .crashed ↔ BadHash stored.genesisHash ∧
      (flag.isSome ∨ (Chain.named? stored.chain).isSome) := by
  rw [Premises.decide.eq_def]
  cases flag with
  | some chosen =>
    dsimp only
    split_ifs
    · simp [found_crashed_iff hseen]
    · simp [refuse_crashed_iff (hknown chosen rfl)]
  | none =>
    cases hnamed : Chain.named? stored.chain with
    | none => simp [hnamed]
    | some chain => simp [hnamed, found_crashed_iff hseen]

end Premises

/-! ## Files that stay -/

section Straight

open File (Tree Pathname visited_straight)

variable {t t' : Tree} {datadir : String}

/-- Is a directory there, or does its path never go up? -/
def Straight (t : Tree) (datadir : String) : Prop :=
  t.isDirectory datadir = true ∨ [Tree.dot, Tree.dot] ∉ Pathname.names datadir

theorem straight_of_createDirectories (h : t.Rooted)
    (hmade : t.createDirectories datadir = (t', .ok ())) : Straight t' datadir := by
  by_cases hempty : datadir = ""
  · rw [hempty]
    exact .inr (by decide)
  · exact .inl (Tree.createDirectories_made h hempty hmade)

namespace GenesisRecord

def names : List File.Name :=
  [Utf8.encode "testnode", Utf8.encode "chaindata", Utf8.encode "GENESIS"]

theorem names_path (datadir : String) (workingDir : File.Place) :
    Pathname.names (path datadir) = Pathname.names datadir ++ names ∧
      Pathname.start (path datadir) workingDir = Pathname.start datadir workingDir := by
  have hname (name : String) (hname : '/' ∉ name.toList) (hne : name ≠ "") :
      Path.isAbsolute name = false ∧ Pathname.names name = [Utf8.encode name] :=
    ⟨Tree.isAbsolute_eq_false hname, Tree.names_name hname hne⟩
  obtain ⟨hnode, hnodes⟩ := hname "testnode" (by decide) (by decide)
  obtain ⟨hchain, hchains⟩ := hname "chaindata" (by decide) (by decide)
  obtain ⟨hrecord, hrecords⟩ := hname "GENESIS" (by decide) (by decide)
  obtain ⟨hne, hfirst, hstart⟩ : Path.join datadir "testnode" ≠ "" ∧
      Pathname.names (Path.join datadir "testnode") =
        Pathname.names datadir ++ [Utf8.encode "testnode"] ∧
      Pathname.start (Path.join datadir "testnode") workingDir =
        Pathname.start datadir workingDir := by
    by_cases hempty : datadir = ""
    · subst hempty
      exact ⟨by decide, hnodes, rfl⟩
    · exact ⟨Tree.join_ne_empty hempty hnode, (Tree.names_join hempty hnode).trans
        (by rw [hnodes]), Tree.start_join hempty hnode⟩
  have hsecond := Tree.join_ne_empty hne hchain
  constructor
  · rw [path, Tree.names_join hsecond hrecord, Tree.names_join hne hchain, hfirst, hchains,
      hrecords]
    simp [names]
  · rw [path, Tree.start_join hsecond hrecord, Tree.start_join hne hchain, hstart]

/-- The way to a record goes through directories that lie above it, and otherwise only through
those on the way to its own directory. -/
theorem way_path (h : t.Rooted) (hstraight : Straight t datadir) :
    ∀ q ∈ Pathname.visited (path datadir) t.workingDir,
      q <+: Pathname.place (path datadir) t.workingDir ∨ t.DirAt q := by
  obtain ⟨hnames, hstart⟩ := names_path datadir t.workingDir
  have hnone : names ≠ [] := by decide
  have hup : [Tree.dot, Tree.dot] ∉ names := by decide
  obtain ⟨hbelow, hvisited⟩ := visited_straight hup (Pathname.place datadir t.workingDir)
  rw [Pathname.visited, Pathname.place, Pathname.target, hnames, hstart,
    File.target_append _ _ hnone]
  refine (File.forall_visited_append _ _ hnone _).2
    ⟨fun q hq => ?_, fun _ => .inl hbelow, fun q hq => .inl (hvisited q hq)⟩
  rcases hstraight with hthere | hup
  · exact .inr (((Tree.isDirectory_iff h).1 hthere).2.1 q hq)
  · exact .inl (((visited_straight hup _).2 q hq).trans hbelow)

theorem store_keepsFiles (h : t.Rooted) (hnumbered : t.Numbered) (hstraight : Straight t datadir)
    (habsent : t.read (path datadir) = .error .notFound) (chain : Chain) :
    t.KeepsFiles (store t (path datadir) chain).1 ∧ (store t (path datadir) chain).1.Numbered := by
  have hkeeps := t.createDirectories_keeps ((Path.parent? (path datadir)).getD "")
  have hmade := hnumbered.createDirectories ((Path.parent? (path datadir)).getD "")
  unfold store
  dsimp only
  split
  · next made fault hcreate =>
    rw [hcreate] at hkeeps hmade
    exact ⟨hkeeps.keepsFiles, hmade⟩
  · next made hcreate =>
    rw [hcreate] at hkeeps hmade
    split
    · exact ⟨hkeeps.keepsFiles, hmade⟩
    · next written hwrite =>
      have hnone : made.isFile (path datadir) = false := by
        by_contra hfile
        exact Tree.read_ne_notFound_of_made h hkeeps (way_path h hstraight)
          (Bool.eq_true_of_not_eq_false hfile) habsent
      obtain ⟨hfiles, hwritten⟩ := Tree.write_keepsFiles hmade hwrite hnone
      exact ⟨hkeeps.keepsFiles.trans hfiles, hwritten⟩

end GenesisRecord

theorem Premises.resolve_keepsFiles {p : Premises} {flag : Option Chain} (h : p.files.Rooted)
    (hnumbered : p.files.Numbered) (hstraight : Straight p.files datadir)
    (hknown : ∀ c ∈ flag, c ∈ Chain.all) :
    p.files.KeepsFiles (p.resolve datadir flag).1.files ∧
      (p.resolve datadir flag).1.files.Numbered := by
  cases hload : GenesisRecord.load p.files (GenesisRecord.path datadir) with
  | error fault =>
    rw [resolve_fault hload]
    exact ⟨.refl _, hnumbered⟩
  | ok stored =>
    rw [resolve_load hload]
    cases stored with
    | none =>
      obtain ⟨noted, hdecide, hfiles⟩ := p.decide_absent (GenesisRecord.path datadir) hknown
      rw [hdecide, record_files, hfiles]
      exact GenesisRecord.store_keepsFiles h hnumbered hstraight
        (GenesisRecord.load_eq_none hload) _
    | some stored =>
      rw [decide_present]
      exact ⟨.refl _, hnumbered⟩

end Straight

/-- Just the records whose hash is cut within a character crash a node that shows hashes, if it
names a chain or the record names one. Every other run comes to a chain or to a fault. No run
changes a file that is there, its directory being one that is there, as it is once a node has made
it, or one whose path never goes up. A hash that is shown is shown whole, or by its first eight and
its last six bytes. -/
theorem resolve_crashed_iff (p : Premises) (datadir : String) (flag : Option Chain)
    (hseen : p.journal.visible .chain .info = true) (hknown : ∀ c ∈ flag, c ∈ Chain.all) :
    ((p.resolve datadir flag).2 = .crashed ↔ ∃ stored,
      GenesisRecord.load p.files (GenesisRecord.path datadir) = .ok (some stored) ∧
        BadHash stored.genesisHash ∧
        (flag.isSome ∨ (Chain.named? stored.chain).isSome)) ∧
    ((p.resolve datadir flag).2 ≠ .crashed →
      (∃ chain, (p.resolve datadir flag).2 = .done chain) ∨
      ∃ fault, (p.resolve datadir flag).2 = .failed fault) ∧
    (p.files.Rooted → p.files.Numbered → Straight p.files datadir →
      p.files.KeepsFiles (p.resolve datadir flag).1.files ∧
        (p.resolve datadir flag).1.files.Numbered) ∧
    (∀ t made : File.Tree, t.Rooted → t.createDirectories datadir = (made, .ok ()) →
      Straight made datadir) ∧
    (∀ hash, shortHash? hash = none ↔ BadHash hash) ∧
    ∀ hash short, shortHash? hash = some short →
      Utf8.encode short = if (Utf8.encode hash).length ≤ 14 then Utf8.encode hash
        else (Utf8.encode hash).take 8 ++ Utf8.encode "…" ++
          (Utf8.encode hash).drop ((Utf8.encode hash).length - 6) := by
  refine ⟨?_, fun hends => ?_, fun hrooted hnumbered hstraight => ?_,
    fun t made => straight_of_createDirectories, fun hash => ?_, fun hash short => encode_shortHash⟩
  · cases hload : GenesisRecord.load p.files (GenesisRecord.path datadir) with
    | error fault =>
      rw [Premises.resolve_fault hload]
      simp
    | ok stored =>
      rw [Premises.resolve_load hload]
      cases stored with
      | some stored =>
        rw [Premises.decide_crashed_iff hseen hknown]
        simp
      | none =>
        obtain ⟨noted, hdecide, -⟩ := p.decide_absent (GenesisRecord.path datadir) hknown
        rw [hdecide]
        refine iff_of_false (Premises.record_ne_crashed _ _ _) ?_
        rintro ⟨stored, hstored, -⟩
        cases hstored
  · cases houtcome : (p.resolve datadir flag).2 with
    | done chain => exact .inl ⟨chain, rfl⟩
    | failed fault => exact .inr ⟨fault, rfl⟩
    | crashed => exact absurd houtcome hends
  · exact Premises.resolve_keepsFiles hrooted hnumbered hstraight hknown
  · rw [← not_iff_not, ← exists_shortHash_iff]
    cases shortHash? hash <;> simp

/-- The eighth byte of a hash within a character: a run that names no chain crashes on the chain of
the record, and one that names another chain while it refuses the record. -/
theorem resolve_crashed_iff_within :
    let p : Premises := { files := Premises.filesWith ⟨"goerli", "0x00000é0000000"⟩ }
    p.journal.visible .chain .info = true ∧ (p.resolve "/d" none).2 = .crashed ∧
      (∀ c ∈ some Chain.mainnet, c ∈ Chain.all) ∧
      (p.resolve "/d" (some .mainnet)).2 = .crashed ∧
      p.files.KeepsFiles (p.resolve "/d" none).1.files := by
  intro p
  have hseen : p.journal.visible .chain .info = true := by decide +kernel
  have hload : GenesisRecord.load p.files (GenesisRecord.path "/d") =
      .ok (some ⟨"goerli", "0x00000é0000000"⟩) :=
    GenesisRecord.load_content (by decide +kernel)
  have hknown : ∀ c ∈ some Chain.mainnet, c ∈ Chain.all := by decide
  have hnone : ∀ c ∈ (none : Option Chain), c ∈ Chain.all := nofun
  have hrooted : p.files.Rooted := ⟨_, rfl⟩
  have hstraight : Straight p.files "/d" := .inr (by decide)
  have hnumbered : p.files.Numbered := Premises.numbered_filesWith _
  obtain ⟨hcrash, -, hfiles, -, hbad, -⟩ := resolve_crashed_iff p "/d" none hseen hnone
  obtain ⟨hcrash', -⟩ := resolve_crashed_iff p "/d" (some .mainnet) hseen hknown
  have hhash : BadHash "0x00000é0000000" := (hbad _).1 (by decide +kernel)
  exact ⟨hseen, hcrash.2 ⟨_, hload, hhash, .inr (by decide +kernel)⟩, hknown,
    hcrash'.2 ⟨_, hload, hhash, .inl rfl⟩, (hfiles hrooted hnumbered hstraight).1⟩

end DaemonDialogue.Node
