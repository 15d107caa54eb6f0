import DaemonDialogue.Node.Lifecycle
import DaemonDialogue.Proofs.File.Tree
import DaemonDialogue.Proofs.Node.Wire

/-!
# The chain of a directory

The record that the first run writes down is never written again, and decides about the chain of
every later run: of those that name no chain, and of those that name it. A run that names another
one is refused.
-/

namespace DaemonDialogue.Node

/-! ## Known chains -/

theorem exists_shortHash_ofList {hash : List Char} (h : Utf8.Narrow hash) :
    ∃ short, shortHash? (String.ofList hash) = some short := by
  unfold shortHash?
  rw [Utf8.encode, String.toList_ofList]
  dsimp only
  split_ifs
  · exact ⟨_, rfl⟩
  · rw [Utf8.strictDecode_take h, Utf8.strictDecode_drop h]
    exact ⟨_, rfl⟩

namespace Chain

theorem named?_name : ∀ c ∈ all, named? c.name = some c := by
  decide +kernel

theorem narrow_genesisHash : ∀ c ∈ all,
    ∃ hash, c.genesisHash = String.ofList hash ∧ Utf8.Narrow hash := by
  simp only [all, List.forall_mem_cons]
  exact ⟨⟨_, rfl, by decide⟩, ⟨_, rfl, by decide⟩, ⟨_, rfl, by decide⟩, ⟨_, rfl, by decide⟩,
    ⟨_, rfl, by decide⟩, ⟨_, rfl, by decide⟩, ⟨_, rfl, by decide⟩, ⟨_, rfl, by decide⟩, by simp⟩

theorem exists_shortHash {c : Chain} (h : c ∈ all) :
    ∃ short, shortHash? c.genesisHash = some short := by
  obtain ⟨hash, hc, hnarrow⟩ := narrow_genesisHash c h
  rw [hc]
  exact exists_shortHash_ofList hnarrow

end Chain

/-! ## Records -/

namespace GenesisRecord

variable {t : File.Tree} {path : String}

theorem ofChain_inj {c d : Chain} (hc : c ∈ Chain.all) (hd : d ∈ Chain.all)
    (h : ofChain c = ofChain d) : c = d := by
  have hname : c.name = d.name := congrArg chain h
  have hsame := Chain.named?_name c hc
  rw [hname, Chain.named?_name d hd] at hsame
  exact (Option.some.inj hsame).symm

theorem load_content {r : GenesisRecord} (h : t.read path = .ok r.content) :
    load t path = .ok (some r) := by
  rw [load, h]
  simp only [r.strictDecode_content, ofText, r.decode_pretty]
  rfl

theorem load_absent (h : t.read path = .error .notFound) : load t path = .ok none := by
  rw [load, h]

theorem load_eq_none (h : load t path = .ok none) : t.read path = .error .notFound := by
  unfold load at h
  split at h
  · assumption
  · cases h
  · split at h
    · cases h
    · next text _ => cases hrecord : ofText path text <;> simp [hrecord, Except.map] at h

theorem exists_read {stored : GenesisRecord} (h : load t path = .ok (some stored)) :
    ∃ bytes, t.read path = .ok bytes := by
  unfold load at h
  split at h
  · cases h
  · cases h
  · next bytes hread => exact ⟨bytes, hread⟩

theorem load_keeps {t' : File.Tree} (hkeeps : t.Keeps t') {stored : GenesisRecord}
    (h : load t path = .ok (some stored)) : load t' path = .ok (some stored) := by
  obtain ⟨bytes, hread⟩ := exists_read h
  rw [load, hread] at h
  rw [load, hkeeps.read hread]
  exact h

/-- Is the record of a chain written to a file? -/
structure Stores (t : File.Tree) (path : String) (c : Chain) : Prop where
  done : (store t path c).2 = .ok ()
  file : (store t path c).1.isFile path = true

theorem exists_write {c : Chain} {t' : File.Tree} (h : store t path c = (t', .ok ())) :
    ∃ made : File.Tree, made.write path (ofChain c).content = .ok t' := by
  unfold store at h
  dsimp only at h
  split at h
  · cases h
  · next made hmade =>
    split at h
    · cases h
    · next written hwrite =>
      cases h
      exact ⟨made, hwrite⟩

theorem Stores.read {c : Chain} (h : Stores t path c) :
    (store t path c).1.read path = .ok (ofChain c).content := by
  obtain ⟨made, hwrite⟩ := exists_write (Prod.ext rfl h.done : store t path c = (_, .ok ()))
  exact File.Tree.read_write hwrite h.file

end GenesisRecord

/-! ## One run -/

namespace Premises

variable {p : Premises} {datadir : String}

theorem noteHash_files {before hash : String} {noted : Premises}
    (h : p.noteHash before hash = some noted) : noted.files = p.files := by
  rw [noteHash] at h
  split_ifs at h
  · obtain ⟨short, -, rfl⟩ := Option.map_eq_some_iff.1 h
    rfl
  · cases h
    rfl

theorem exists_noteHash (p : Premises) (before : String) {hash short : String}
    (h : shortHash? hash = some short) : ∃ noted, p.noteHash before hash = some noted := by
  rw [noteHash, h]
  split_ifs
  · exact ⟨_, rfl⟩
  · exact ⟨p, rfl⟩

theorem found_files (p : Premises) (stored : GenesisRecord) (chain : Chain) :
    (p.found stored chain).1.files = p.files := by
  rw [found]
  split
  · next hnoted => exact noteHash_files hnoted
  · rfl

theorem found_done (p : Premises) {stored : GenesisRecord} {chain : Chain} {short : String}
    (h : shortHash? stored.genesisHash = some short) :
    (p.found stored chain).2 = .done chain := by
  obtain ⟨noted, hnoted⟩ := p.exists_noteHash
    s!"Found stored genesis block chain={stored.chain} hash=" h
  rw [found, hnoted]

theorem record_files (p : Premises) (path : String) (chain : Chain) :
    (p.record path chain).1.files = (GenesisRecord.store p.files path chain).1 := by
  unfold record
  split <;> next heq => rw [heq]

theorem record_done {p : Premises} {path : String} {chain : Chain}
    (h : (GenesisRecord.store p.files path chain).2 = .ok ()) :
    (p.record path chain).2 = .done chain := by
  unfold record
  split
  · rfl
  · next heq =>
    rw [heq] at h
    cases h

theorem refuse_failed {stored : GenesisRecord} {chosen : Chain} {old new : String}
    (hold : shortHash? stored.genesisHash = some old)
    (hnew : shortHash? chosen.genesisHash = some new) :
    refuse stored chosen = .failed (.incompatible stored.chain old chosen.name new) := by
  rw [refuse, hold, hnew]

theorem decide_absent (p : Premises) (path : String) {flag : Option Chain}
    (h : ∀ c ∈ flag, c ∈ Chain.all) :
    ∃ noted : Premises, p.decide path flag none = noted.record path (flag.getD .mainnet) ∧
      noted.files = p.files := by
  unfold Premises.decide
  cases flag with
  | none => exact ⟨_, rfl, rfl⟩
  | some chosen =>
    obtain ⟨short, hshort⟩ := Chain.exists_shortHash (h chosen rfl)
    obtain ⟨noted, hnoted⟩ := p.exists_noteHash
      s!"Writing genesis block chain={chosen.name} hash=" hshort
    refine ⟨noted, ?_, noteHash_files hnoted⟩
    dsimp only
    rw [hnoted]
    rfl

theorem decide_present (p : Premises) (path : String) (flag : Option Chain)
    (stored : GenesisRecord) : (p.decide path flag (some stored)).1.files = p.files := by
  unfold Premises.decide
  cases flag with
  | none =>
    dsimp only
    split
    · exact found_files _ _ _
    · rfl
  | some chosen =>
    dsimp only
    split_ifs
    · exact found_files _ _ _
    · rfl

theorem found_eq {p : Premises} {stored : GenesisRecord} {chain found : Chain}
    (h : (p.found stored chain).2 = .done found) : found = chain := by
  rw [Premises.found] at h
  split at h
  · cases h
    rfl
  · cases h

theorem record_eq {p : Premises} {path : String} {chain recorded : Chain}
    (h : (p.record path chain).2 = .done recorded) : recorded = chain := by
  unfold record at h
  split at h
  · cases h
    rfl
  · cases h

theorem named?_of_decide {path : String} {flag : Option Chain} (hknown : ∀ c ∈ flag, c ∈ Chain.all)
    {stored : GenesisRecord} {chain : Chain}
    (h : (p.decide path flag (some stored)).2 = .done chain) :
    Chain.named? stored.chain = some chain := by
  unfold Premises.decide at h
  cases flag with
  | none =>
    dsimp only at h
    split at h
    · next named hnamed => rw [hnamed, found_eq h]
    · cases h
  | some chosen =>
    dsimp only at h
    split_ifs at h with heq
    · rw [found_eq h, heq]
      exact Chain.named?_name chosen (hknown chosen rfl)
    · unfold refuse at h
      split at h <;> cases h

theorem resolve_load {stored : Option GenesisRecord}
    (h : GenesisRecord.load p.files (GenesisRecord.path datadir) = .ok stored)
    (flag : Option Chain) :
    p.resolve datadir flag = p.decide (GenesisRecord.path datadir) flag stored := by
  unfold resolve
  simp only [h]

theorem resolve_fault {fault : Fault}
    (h : GenesisRecord.load p.files (GenesisRecord.path datadir) = .error fault)
    (flag : Option Chain) : p.resolve datadir flag = (p, .failed fault) := by
  unfold resolve
  simp only [h]

end Premises

/-- A run of a node on a directory: the chain it names, one that is known, and its journal. -/
structure ChainRun where
  flag : Option Chain := none
  known : ∀ c ∈ flag, c ∈ Chain.all := by simp
  journal : Journal := {}

namespace ChainRun

variable (r : ChainRun) (datadir : String) {t : File.Tree}

/-- The chain that a run begins with where there is no record. -/
def chain : Chain := r.flag.getD .mainnet

def resolve (t : File.Tree) : Premises × Outcome Chain :=
  Premises.resolve ⟨t, r.journal⟩ datadir r.flag

def files (t : File.Tree) : File.Tree := (r.resolve datadir t).1.files

def outcome (t : File.Tree) : Outcome Chain := (r.resolve datadir t).2

variable {datadir}

theorem resolve_absent (h : t.read (GenesisRecord.path datadir) = .error .notFound) :
    ∃ p : Premises, r.resolve datadir t = p.record (GenesisRecord.path datadir) r.chain ∧
      p.files = t := by
  have hload : GenesisRecord.load (Premises.files ⟨t, r.journal⟩) (GenesisRecord.path datadir) =
    .ok none := GenesisRecord.load_absent h
  rw [resolve, Premises.resolve_load hload]
  exact Premises.decide_absent ⟨t, r.journal⟩ (GenesisRecord.path datadir) r.known

theorem files_absent (h : t.read (GenesisRecord.path datadir) = .error .notFound) :
    r.files datadir t = (GenesisRecord.store t (GenesisRecord.path datadir) r.chain).1 := by
  obtain ⟨p, hresolve, rfl⟩ := r.resolve_absent h
  rw [files, hresolve, Premises.record_files]

theorem outcome_absent (h : t.read (GenesisRecord.path datadir) = .error .notFound)
    (hstore : (GenesisRecord.store t (GenesisRecord.path datadir) r.chain).2 = .ok ()) :
    r.outcome datadir t = .done r.chain := by
  obtain ⟨p, hresolve, rfl⟩ := r.resolve_absent h
  rw [outcome, hresolve, Premises.record_done hstore]

/-- A run that finds anything else leaves it. -/
theorem files_present (h : t.read (GenesisRecord.path datadir) ≠ .error .notFound) :
    r.files datadir t = t := by
  rw [files, resolve]
  cases hload : GenesisRecord.load (Premises.files ⟨t, r.journal⟩)
      (GenesisRecord.path datadir) with
  | error fault => rw [Premises.resolve_fault hload]
  | ok stored =>
    rw [Premises.resolve_load hload]
    cases stored with
    | none => exact absurd (GenesisRecord.load_eq_none hload) h
    | some stored => exact Premises.decide_present ⟨t, r.journal⟩ _ _ _

theorem outcome_recorded {c : Chain} (hc : c ∈ Chain.all)
    (h : t.read (GenesisRecord.path datadir) = .ok (GenesisRecord.ofChain c).content) :
    (r.flag = none → r.outcome datadir t = .done c) ∧
    (r.flag = some c → r.outcome datadir t = .done c) ∧
    (∀ other, r.flag = some other → other ≠ c → ∃ old new,
      r.outcome datadir t = .failed (.incompatible c.name old other.name new)) := by
  obtain ⟨old, hold⟩ := Chain.exists_shortHash hc
  have hstored : shortHash? (GenesisRecord.ofChain c).genesisHash = some old := hold
  have hload : GenesisRecord.load (Premises.files ⟨t, r.journal⟩) (GenesisRecord.path datadir) =
    .ok (some (GenesisRecord.ofChain c)) := GenesisRecord.load_content h
  rw [outcome, resolve, Premises.resolve_load hload]
  unfold Premises.decide
  refine ⟨fun hflag => ?_, fun hflag => ?_, fun other hflag hne => ?_⟩
  · rw [hflag]
    have hnamed : Chain.named? (GenesisRecord.ofChain c).chain = some c := Chain.named?_name c hc
    simp only [hnamed]
    exact Premises.found_done _ hstored
  · rw [hflag]
    dsimp only
    rw [if_pos rfl]
    exact Premises.found_done _ hstored
  · have hother := r.known other hflag
    obtain ⟨new, hnew⟩ := Chain.exists_shortHash hother
    rw [hflag]
    dsimp only
    rw [if_neg fun heq => hne (GenesisRecord.ofChain_inj hother hc heq.symm)]
    exact ⟨old, new, Premises.refuse_failed hstored hnew⟩

end ChainRun

/-! ## All runs -/

def afterRuns (datadir : String) (t : File.Tree) (runs : List ChainRun) : File.Tree :=
  runs.foldl (fun t r => r.files datadir t) t

section Runs

variable {datadir : String} {t : File.Tree}

theorem afterRuns_present (h : t.read (GenesisRecord.path datadir) ≠ .error .notFound)
    (runs : List ChainRun) : afterRuns datadir t runs = t := by
  induction runs with
  | nil => rfl
  | cons r rest ih => rw [afterRuns, List.foldl_cons, r.files_present h, ← afterRuns, ih]

/-- What the first run writes down is there behind all later ones. -/
theorem afterRuns_absent (h : t.read (GenesisRecord.path datadir) = .error .notFound)
    {first : ChainRun} (hstore : GenesisRecord.Stores t (GenesisRecord.path datadir) first.chain)
    (rest : List ChainRun) :
    (afterRuns datadir t (first :: rest)).read (GenesisRecord.path datadir) =
      .ok (GenesisRecord.ofChain first.chain).content := by
  have hread := hstore.read
  rw [← first.files_absent h] at hread
  have hpresent : (first.files datadir t).read (GenesisRecord.path datadir) ≠
      .error .notFound := by
    rw [hread]
    nofun
  rw [afterRuns, List.foldl_cons, ← afterRuns, afterRuns_present hpresent, hread]

end Runs

/-! ## Nodes -/

/-- Does a node say that it runs a chain, with a network of its own or that of the chain? -/
structure Settings.Presents (settings : Settings) (c : Chain) (info : Info) : Prop where
  chain : info.chain = c.name
  chainId : info.chainId = c.chainId
  genesisHash : info.genesisHash = c.genesisHash
  networkId : info.networkId = settings.networkId.getD c.networkId

namespace Settings

variable {settings : Settings}

theorem openSocket_info {r r' : Running} {s s' : Site}
    (h : settings.openSocket r s = (s', .done r')) : r'.info = r.info := by
  unfold openSocket at h
  dsimp only at h
  split at h
  · cases h
    rfl
  · split_ifs at h
    · cases h
      rfl
    · cases h

theorem openPorts_info {r r' : Running} {s s' : Site} {ports : List OpenPort}
    (h : openPorts r s ports = (s', .done r')) : r'.info = r.info := by
  induction ports generalizing r s with
  | nil =>
    cases h
    rfl
  | cons p rest ih =>
    unfold openPorts at h
    split at h
    · cases h
    · have hrest := ih h
      exact hrest

theorem startOn_info {chain : Chain} {s s' : Site} {r : Running}
    (h : settings.startOn chain s = (s', .done r)) : r.info = settings.identity chain := by
  unfold startOn at h
  dsimp only at h
  split at h
  · next opened hopened =>
    split at h
    · next hports =>
      cases h
      rw [openPorts_info hports, openSocket_info hopened]
    · cases h
      simp_all
  · cases h
    simp_all

theorem resolveChain_snd (settings : Settings) (s : Site) :
    (settings.resolveChain s).2 =
      (Premises.resolve ⟨s.host.files, s.journal⟩ settings.datadir settings.chain).2 := by
  unfold resolveChain
  generalize Premises.resolve _ _ _ = result
  rfl

theorem host_info (s : Site) (message : String) : (s.info message).host = s.host := rfl

theorem start_info {s s' : Site} {r : Running} (h : settings.start s = (s', .done r)) :
    ∃ (journal : Journal) (chain : Chain),
      (Premises.resolve ⟨(s.host.files.createDirectories settings.datadir).1, journal⟩
        settings.datadir settings.chain).2 = .done chain ∧
      r.info = settings.identity chain := by
  unfold start at h
  split at h
  · cases h
  · next made hmade =>
    have hfiles : (s.host.files.createDirectories settings.datadir).1 = made.host.files :=
      congrArg (fun result => result.1.host.files) hmade
    dsimp only at h
    split at h
    · next resolved chain hchain =>
      have hresolve : (settings.resolveChain _).2 = .done chain := congrArg Prod.snd hchain
      rw [resolveChain_snd, host_info, host_info, ← hfiles] at hresolve
      exact ⟨_, chain, hresolve, startOn_info h⟩
    · cases h
    · cases h

theorem presents_identity (settings : Settings) (chain : Chain) :
    settings.Presents chain (settings.identity chain) :=
  ⟨rfl, rfl, rfl, rfl⟩

theorem start_recorded (hknown : ∀ c ∈ settings.chain, c ∈ Chain.all) {s s' : Site} {r : Running}
    (h : settings.start s = (s', .done r)) {stored : GenesisRecord}
    (hload : GenesisRecord.load s.host.files (GenesisRecord.path settings.datadir) =
      .ok (some stored)) :
    ∃ chain, Chain.named? stored.chain = some chain ∧ settings.Presents chain r.info := by
  obtain ⟨journal, chain, hresolve, hinfo⟩ := start_info h
  have hkept : GenesisRecord.load
      (Premises.files ⟨(s.host.files.createDirectories settings.datadir).1, journal⟩)
      (GenesisRecord.path settings.datadir) = .ok (some stored) :=
    GenesisRecord.load_keeps (File.Tree.createDirectories_keeps _ _) hload
  rw [Premises.resolve_load hkept] at hresolve
  rw [hinfo]
  exact ⟨chain, Premises.named?_of_decide hknown hresolve, presents_identity settings chain⟩

theorem start_absent (hknown : ∀ c ∈ settings.chain, c ∈ Chain.all) {s s' : Site} {r : Running}
    (h : settings.start s = (s', .done r))
    (habsent : (s.host.files.createDirectories settings.datadir).1.read
      (GenesisRecord.path settings.datadir) = .error .notFound) :
    settings.Presents (settings.chain.getD .mainnet) r.info := by
  obtain ⟨journal, chain, hresolve, hinfo⟩ := start_info h
  have hload : GenesisRecord.load
      (Premises.files ⟨(s.host.files.createDirectories settings.datadir).1, journal⟩)
      (GenesisRecord.path settings.datadir) = .ok none := GenesisRecord.load_absent habsent
  obtain ⟨noted, hdecide, -⟩ := Premises.decide_absent
    ⟨(s.host.files.createDirectories settings.datadir).1, journal⟩
    (GenesisRecord.path settings.datadir) hknown
  rw [Premises.resolve_load hload, hdecide] at hresolve
  rw [hinfo, ← Premises.record_eq hresolve]
  exact presents_identity settings chain

theorem exists_openSocket (hipc : settings.ipcPath = none) (r : Running) (s : Site) :
    ∃ s' r', settings.openSocket r s = (s', .done r') := by
  unfold openSocket
  dsimp only
  split
  · exact ⟨_, _, rfl⟩
  · rw [hipc]
    exact ⟨_, _, rfl⟩

theorem exists_startOn (hipc : settings.ipcPath = none) (hports : settings.ports = [])
    (chain : Chain) (s : Site) : ∃ s' r, settings.startOn chain s = (s', .done r) := by
  unfold startOn
  rw [hports]
  dsimp only
  generalize Site.info _ _ = noted
  obtain ⟨s', r, hopened⟩ := exists_openSocket hipc { info := settings.identity chain } noted
  rw [hopened]
  exact ⟨_, r, rfl⟩

theorem exists_start (hipc : settings.ipcPath = none) (hports : settings.ports = []) {c : Chain}
    (hc : c ∈ Chain.all) (hflag : settings.chain = none ∨ settings.chain = some c) {s : Site}
    (hmade : (s.host.files.createDirectories settings.datadir).2 = .ok ())
    (hread : s.host.files.read (GenesisRecord.path settings.datadir) =
      .ok (GenesisRecord.ofChain c).content) :
    ∃ s' r, settings.start s = (s', .done r) := by
  have hknown : ∀ chosen ∈ settings.chain, chosen ∈ Chain.all := by
    rcases hflag with hflag | hflag <;> simp [hflag, hc]
  have hkept := (File.Tree.createDirectories_keeps s.host.files settings.datadir).read hread
  have hresolve : ∀ journal, (Premises.resolve
      ⟨(s.host.files.createDirectories settings.datadir).1, journal⟩ settings.datadir
        settings.chain).2 = .done c := by
    intro journal
    obtain ⟨hnone, hsame, -⟩ :=
      ChainRun.outcome_recorded ⟨settings.chain, hknown, journal⟩ hc hkept
    exact hflag.elim hnone hsame
  have hmake : s.makeDirectory settings.datadir =
      (s.withFiles (s.host.files.createDirectories settings.datadir).1, .ok ()) :=
    Prod.ext rfl hmade
  unfold start
  rw [hmake]
  dsimp only
  generalize hresolved : settings.resolveChain _ = resolved
  obtain ⟨s', outcome⟩ := resolved
  have houtcome := congrArg Prod.snd hresolved
  rw [resolveChain_snd] at houtcome
  obtain rfl : outcome = .done c := houtcome.symm.trans (hresolve _)
  exact exists_startOn hipc hports c s'

end Settings

theorem ChainRun.chain_known (r : ChainRun) : r.chain ∈ Chain.all := by
  unfold ChainRun.chain
  cases hflag : r.flag with
  | none => simp [Chain.all]
  | some c => exact r.known c hflag

end DaemonDialogue.Node
