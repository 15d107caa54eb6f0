import DaemonDialogue.Config.Basic
import DaemonDialogue.Proofs.Text.Numeral
import Mathlib.Tactic

/-!
# Overlays of a configuration

Each variable of an environment has a field of the configuration of its own, and the variables are
taken one after the other: an overlay is a run through them whose step either gives a variable's
field its value or ends the run with a fault. What the fields hold afterwards is thus said variable
by variable, and the laws of overlays are read off that.
-/

namespace DaemonDialogue.Config

/-! ## Words for an answer -/

/-- The words for an answer, in small letters. -/
def words : Bool → List String
  | true => ["1", "true", "yes", "on"]
  | false => ["0", "false", "no", "off", ""]

/-- Is a text a word for an answer, each of its letters small or capital? -/
def Means (answer : Bool) (text : String) : Prop :=
  ∃ word ∈ words answer,
    List.Forall₂ (fun c small => c = small ∨ c = Ascii.upper small) text.toList word.toList

theorem exists_of_isUpper {c : Char} (h : Ascii.isUpper c = true) :
    ∃ n < 26, c = Char.ofNat (65 + n) := by
  simp only [Ascii.isUpper, Bool.and_eq_true, decide_eq_true_eq, Char.le_def,
    UInt32.le_iff_toNat_le] at h
  have hrange : 65 ≤ c.toNat ∧ c.toNat ≤ 90 := h
  refine ⟨c.toNat - 65, by omega, ?_⟩
  rw [Nat.add_sub_cancel' hrange.1, Char.ofNat_toNat]

theorem exists_of_isLetter {c : Char} (h : Ascii.isLetter c = true)
    (hsmall : Ascii.isUpper c = false) : ∃ n < 26, c = Char.ofNat (97 + n) := by
  rw [Ascii.isLetter, hsmall, Bool.or_false] at h
  simp only [Bool.and_eq_true, decide_eq_true_eq, Char.le_def, UInt32.le_iff_toNat_le] at h
  have hrange : 97 ≤ c.toNat ∧ c.toNat ≤ 122 := h
  refine ⟨c.toNat - 97, by omega, ?_⟩
  rw [Nat.add_sub_cancel' hrange.1, Char.ofNat_toNat]

theorem lower_eq_iff {c small : Char} (h : Ascii.isUpper small = false) :
    Ascii.lower c = small ↔ c = small ∨ c = Ascii.upper small := by
  have hletters : ∀ n < 26, Ascii.lower (Char.ofNat (65 + n)) = Char.ofNat (97 + n) ∧
      Ascii.upper (Char.ofNat (97 + n)) = Char.ofNat (65 + n) := by decide
  constructor
  · intro hlower
    cases hc : Ascii.isUpper c with
    | false => exact .inl (by rw [← hlower, Ascii.lower, hc, if_neg Bool.false_ne_true])
    | true =>
      obtain ⟨n, hn, rfl⟩ := exists_of_isUpper hc
      rw [← hlower, (hletters n hn).1, (hletters n hn).2]
      exact .inr rfl
  · have hself : Ascii.lower small = small := by
      rw [Ascii.lower, h, if_neg Bool.false_ne_true]
    rintro (rfl | rfl)
    · exact hself
    · cases hl : Ascii.isLetter small with
      | false => rwa [Ascii.upper, hl, Bool.false_and, if_neg Bool.false_ne_true]
      | true =>
        obtain ⟨n, hn, rfl⟩ := exists_of_isLetter hl h
        rw [(hletters n hn).2, (hletters n hn).1]

theorem map_lower_eq_iff {text small : List Char} (h : ∀ c ∈ small, Ascii.isUpper c = false) :
    text.map Ascii.lower = small ↔
      List.Forall₂ (fun c small => c = small ∨ c = Ascii.upper small) text small := by
  induction text generalizing small with
  | nil => rw [List.map_nil, List.forall₂_nil_left_iff, eq_comm]
  | cons c text ih =>
    cases small with
    | nil => simp
    | cons d small =>
      obtain ⟨hd, hsmall⟩ := List.forall_mem_cons.1 h
      rw [List.map_cons, List.cons.injEq, List.forall₂_cons, lower_eq_iff hd, ih hsmall]

theorem means_iff {answer : Bool} {text : String} :
    Means answer text ↔ String.ofList (text.toList.map Ascii.lower) ∈ words answer := by
  have hsmall : ∀ word ∈ words answer, ∀ c ∈ word.toList, Ascii.isUpper c = false := by
    cases answer <;> simp [words, Ascii.isUpper]
  constructor
  · rintro ⟨word, hword, hcase⟩
    rwa [(map_lower_eq_iff (hsmall word hword)).2 hcase, String.ofList_toList]
  · intro hword
    refine ⟨_, hword, (map_lower_eq_iff (hsmall _ hword)).1 ?_⟩
    rw [String.toList_ofList]

theorem truthOf?_eq_some_iff {text : String} {answer : Bool} :
    truthOf? text = some answer ↔ Means answer text := by
  have happart : ∀ word ∈ words true, word ∉ words false := by decide
  rw [means_iff]
  change (if (words true).contains _ = true then some true
    else if (words false).contains _ = true then some false else none) = _ ↔ _
  simp only [List.contains_iff_mem]
  split_ifs with hyes hno
  · cases answer with
    | true => exact iff_of_true rfl hyes
    | false => exact iff_of_false (by decide) (happart _ hyes)
  · cases answer with
    | true => exact iff_of_false (by decide) hyes
    | false => exact iff_of_true rfl hno
  · cases answer with
    | true => exact iff_of_false nofun hyes
    | false => exact iff_of_false nofun hno

theorem text?_getD {lookup : Lookup} {name raw : String} (h : lookup name = some raw)
    (before : String) :
    (text? lookup name).getD before = if trim raw = "" then before else trim raw := by
  simp only [text?, h, String.isEmpty_iff]
  split_ifs <;> rfl

/-! ## Variables -/

/-- The kinds of variables: a time of up to so many milliseconds, a text, or a yes or no. -/
inductive Kind
  | time (greatest : Nat)
  | text
  | truth

/-- What a field for a kind of variable holds. -/
def Kind.Value : Kind → Type
  | .time _ => Span
  | .text => String
  | .truth => Bool

/-- The variables that an overlay asks for. -/
inductive Variable
  | expectTimeout
  | pollInterval
  | endpointPollInterval
  | drainGrace
  | tempDir
  | keepScratch
  | quiet
  deriving DecidableEq

namespace Variable

def all : List Variable :=
  [expectTimeout, pollInterval, endpointPollInterval, drainGrace, tempDir, keepScratch, quiet]

def name : Variable → String
  | expectTimeout => "CMDTEST_EXPECT_TIMEOUT_MS"
  | pollInterval => "CMDTEST_POLL_INTERVAL_MS"
  | endpointPollInterval => "CMDTEST_ENDPOINT_POLL_MS"
  | drainGrace => "CMDTEST_DRAIN_GRACE_MS"
  | tempDir => "CMDTEST_TEMP_DIR"
  | keepScratch => "CMDTEST_KEEP_SCRATCH"
  | quiet => "CMDTEST_QUIET"

def kind : Variable → Kind
  | expectTimeout => .time 600000
  | pollInterval => .time 1000
  | endpointPollInterval => .time 5000
  | drainGrace => .time 60000
  | tempDir => .text
  | keepScratch => .truth
  | quiet => .truth

def get (c : Config) : (v : Variable) → v.kind.Value
  | expectTimeout => c.expectTimeout
  | pollInterval => c.pollInterval
  | endpointPollInterval => c.endpointPollInterval
  | drainGrace => c.drainGrace
  | tempDir => c.tempDir
  | keepScratch => c.cleanupScratch
  | quiet => c.printOutput

/-- A configuration with another value in the field of a variable. -/
def set (c : Config) : (v : Variable) → v.kind.Value → Config
  | expectTimeout, value => { c with expectTimeout := value }
  | pollInterval, value => { c with pollInterval := value }
  | endpointPollInterval, value => { c with endpointPollInterval := value }
  | drainGrace, value => { c with drainGrace := value }
  | tempDir, value => { c with tempDir := value }
  | keepScratch, value => { c with cleanupScratch := value }
  | quiet, value => { c with printOutput := value }

variable {c d : Config} {v u : Variable}

theorem mem_all (v : Variable) : v ∈ all := by cases v <;> decide

@[simp]
theorem get_set (c : Config) (v : Variable) (value : v.kind.Value) :
    get (set c v value) v = value := by
  cases v <;> rfl

theorem get_set_of_ne (h : u ≠ v) (value : v.kind.Value) : get (set c v value) u = get c u := by
  cases v <;> cases u <;> first | rfl | exact absurd rfl h

@[simp]
theorem set_logDir (c : Config) (v : Variable) (value : v.kind.Value) :
    (set c v value).logDir = c.logDir := by
  cases v <;> rfl

@[simp]
theorem set_environment (c : Config) (v : Variable) (value : v.kind.Value) :
    (set c v value).environment = c.environment := by
  cases v <;> rfl

/-- Two configurations are one if their fields hold the same. -/
theorem ext_get (hget : ∀ v, get c v = get d v) (hlog : c.logDir = d.logDir)
    (henv : c.environment = d.environment) : c = d := by
  obtain ⟨_, _, _, _, _, _, _, _, _⟩ := c
  obtain ⟨_, _, _, _, _, _, _, _, _⟩ := d
  simp only [Config.mk.injEq]
  exact ⟨hget .tempDir, hget .expectTimeout, hget .pollInterval, hget .endpointPollInterval,
    hget .drainGrace, hget .keepScratch, hget .quiet, hlog, henv⟩

end Variable

/-! ## What a variable may say -/

namespace Kind

/-- Is a text one that a variable of a kind may be set to? -/
def Takes : Kind → String → Prop
  | time greatest, raw => ∃ n, Numeral.Denotes (trim raw) n ∧ 1 ≤ n ∧ n ≤ greatest
  | text, _ => True
  | truth, raw => ∃ answer, Means answer (trim raw)

/-- What a text that a variable of a kind may be set to makes of the field of that variable: only
a text of blanks leaves it as it was. -/
def Gives : (kind : Kind) → String → kind.Value → kind.Value → Prop
  | time greatest, raw, _, after => ∃ n, Numeral.Denotes (trim raw) n ∧
      1 ≤ n ∧ n ≤ greatest ∧ after = Span.ofMillis n
  | text, raw, before, after => after = if trim raw = "" then before else trim raw
  | truth, raw, _, after => ∃ answer, Means answer (trim raw) ∧ after = !answer

/-- How a text that a variable of a kind may not be set to is refused, in the text's own words. -/
inductive Blames (name raw : String) : Kind → Fault → Prop
  | noNumber {greatest : Nat} (h : ¬∃ n ≤ Numeral.maxU64, Numeral.Denotes (trim raw) n) :
    Blames name raw (time greatest) (.invalidValue name "milliseconds" raw)
  | range {greatest n : Nat} (hn : n ≤ Numeral.maxU64) (htext : Numeral.Denotes (trim raw) n)
    (h : ¬(1 ≤ n ∧ n ≤ greatest)) :
    Blames name raw (time greatest) (.outOfRange name raw 1 greatest)
  | noAnswer (h : ¬∃ answer, Means answer (trim raw)) :
    Blames name raw truth (.invalidValue name "boolean" raw)

/-- Does a field for a kind of variable hold what a variable of that kind may set it to? -/
def InRange : (kind : Kind) → kind.Value → Prop
  | time greatest, value =>
    (Span.ofMillis 1).nanos ≤ Span.nanos value ∧ Span.nanos value ≤ (Span.ofMillis greatest).nanos
  | text, _ => True
  | truth, _ => True

/-- What a variable of a kind says, as the overlay asks for it. -/
def read (lookup : Lookup) (name : String) :
    (kind : Kind) → Except Fault (Option kind.Value)
  | time greatest => millis? lookup name 1 greatest
  | text => .ok (text? lookup name)
  | truth => (truth? lookup name).map (Option.map (!·))

variable {lookup : Lookup} {name raw : String} {kind : Kind}

theorem read_absent (h : lookup name = none) : read lookup name kind = .ok none := by
  cases kind <;> simp only [read, millis?, text?, truth?, h] <;> rfl

theorem read_takes (hfits : ∀ greatest, kind = time greatest → greatest ≤ Numeral.maxU64)
    (h : lookup name = some raw) (htakes : kind.Takes raw) :
    ∃ value?, read lookup name kind = .ok value? ∧
      ∀ before, kind.Gives raw before (value?.getD before) := by
  cases kind with
  | time greatest =>
    obtain ⟨n, htext, hleast, hgreatest⟩ := htakes
    have hread := Numeral.read_eq_ok_iff.2 ⟨htext, hgreatest.trans (hfits greatest rfl)⟩
    refine ⟨some (.ofMillis n), ?_, fun _ => ⟨n, htext, hleast, hgreatest, rfl⟩⟩
    change millis? lookup name 1 greatest = .ok (some (.ofMillis n))
    simp only [millis?, h, hread, if_pos (And.intro hleast hgreatest)]
  | text => exact ⟨_, rfl, text?_getD h⟩
  | truth =>
    obtain ⟨answer, hmeans⟩ := htakes
    refine ⟨some (!answer), ?_, fun _ => ⟨answer, hmeans, rfl⟩⟩
    simp only [read, truth?, h, truthOf?_eq_some_iff.2 hmeans, Except.map, Option.map]

theorem Gives.unique {before after value : kind.Value} (hafter : kind.Gives raw before after)
    (hvalue : kind.Gives raw before value) : after = value := by
  cases kind with
  | time greatest =>
    obtain ⟨n, htext, -, -, rfl⟩ := hafter
    obtain ⟨m, htext', -, -, rfl⟩ := hvalue
    rw [htext.unique htext']
  | text => exact hafter.trans hvalue.symm
  | truth =>
    obtain ⟨answer, hmeans, rfl⟩ := hafter
    obtain ⟨answer', hmeans', rfl⟩ := hvalue
    have hword := truthOf?_eq_some_iff.2 hmeans
    rw [truthOf?_eq_some_iff.2 hmeans', Option.some.injEq] at hword
    rw [hword]

theorem Gives.again {before after : kind.Value} (h : kind.Gives raw before after) :
    kind.Gives raw after after := by
  cases kind with
  | time greatest => exact h
  | text =>
    by_cases hblank : trim raw = ""
    · exact (if_pos hblank).symm
    · exact (h.trans (if_neg hblank)).trans (if_neg hblank).symm
  | truth => exact h

theorem Gives.inRange {before after : kind.Value} (h : kind.Gives raw before after) :
    kind.InRange after := by
  cases kind with
  | time greatest =>
    obtain ⟨n, -, hleast, hgreatest, rfl⟩ := h
    exact ⟨Nat.mul_le_mul_right _ hleast, Nat.mul_le_mul_right _ hgreatest⟩
  | text => trivial
  | truth => trivial

theorem exists_blames (name : String) (h : ¬kind.Takes raw) :
    ∃ fault, kind.Blames name raw fault := by
  cases kind with
  | time greatest =>
    by_cases hnumber : ∃ n ≤ Numeral.maxU64, Numeral.Denotes (trim raw) n
    · obtain ⟨n, hn, htext⟩ := hnumber
      exact ⟨_, .range hn htext fun hrange => h ⟨n, htext, hrange⟩⟩
    · exact ⟨_, .noNumber hnumber⟩
  | text => exact absurd trivial h
  | truth => exact ⟨_, .noAnswer h⟩

theorem Blames.read {fault : Fault} (hblames : kind.Blames name raw fault)
    (h : lookup name = some raw) : kind.read lookup name = .error fault := by
  cases hblames with
  | @noNumber greatest hnumber =>
    have hrefused : millis? lookup name 1 greatest =
        .error (.invalidValue name "milliseconds" raw) := by
      cases hread : Numeral.read Numeral.maxU64 (trim raw) with
      | error _ => simp only [millis?, h, hread]
      | ok n =>
        obtain ⟨htext, hn⟩ := Numeral.read_eq_ok_iff.1 hread
        exact absurd ⟨n, hn, htext⟩ hnumber
    exact hrefused
  | @range greatest n hn htext hrange =>
    have hrefused : millis? lookup name 1 greatest =
        .error (.outOfRange name raw 1 greatest) := by
      simp only [millis?, h, Numeral.read_eq_ok_iff.2 ⟨htext, hn⟩, if_neg hrange]
    exact hrefused
  | noAnswer hanswer =>
    cases hword : truthOf? (trim raw) with
    | some answer => exact absurd ⟨answer, truthOf?_eq_some_iff.1 hword⟩ hanswer
    | none => simp only [Kind.read, truth?, h, hword, Except.map]

end Kind

/-! ## The run through the variables -/

namespace Variable

variable {lookup other : Lookup} {c d : Config} {v u : Variable} {vs : List Variable}

/-- Does an environment leave a variable out, or set it to a text that may be taken? -/
def Fits (lookup : Lookup) (v : Variable) : Prop :=
  ∀ raw, lookup v.name = some raw → v.kind.Takes raw

/-- The faults of a variable. -/
def Fails (lookup : Lookup) (v : Variable) (fault : Fault) : Prop :=
  ∃ raw, lookup v.name = some raw ∧ v.kind.Blames v.name raw fault

def step (lookup : Lookup) (c : Config) (v : Variable) : Except Fault Config := do
  let value? ← v.kind.read lookup v.name
  return set c v (value?.getD (get c v))

/-- What a configuration has become behind some variables of an environment. -/
structure Overlaid (lookup : Lookup) (vs : List Variable) (c d : Config) : Prop where
  kept : ∀ v, v ∉ vs ∨ lookup v.name = none → get d v = get c v
  given : ∀ v ∈ vs, ∀ raw, lookup v.name = some raw → v.kind.Gives raw (get c v) (get d v)
  logDir : d.logDir = c.logDir
  environment : d.environment = c.environment

theorem overlay_eq_foldlM (c : Config) (lookup : Lookup) :
    overlay c lookup = all.foldlM (step lookup) c := by
  simp only [all, List.foldlM_cons, List.foldlM_nil, step]
  dsimp only [kind, Kind.read, name]
  unfold overlay
  rcases millis? lookup "CMDTEST_EXPECT_TIMEOUT_MS" 1 600000 with _ | expect
  · rfl
  rcases millis? lookup "CMDTEST_POLL_INTERVAL_MS" 1 1000 with _ | poll
  · rfl
  rcases millis? lookup "CMDTEST_ENDPOINT_POLL_MS" 1 5000 with _ | endpoint
  · rfl
  rcases millis? lookup "CMDTEST_DRAIN_GRACE_MS" 1 60000 with _ | grace
  · rfl
  rcases truth? lookup "CMDTEST_KEEP_SCRATCH" with _ | keep
  · rfl
  rcases truth? lookup "CMDTEST_QUIET" with _ | quiet
  · rfl
  rfl

theorem greatest_le (v : Variable) (greatest : Nat) (h : v.kind = .time greatest) :
    greatest ≤ Numeral.maxU64 := by
  cases v <;> simp only [kind, Kind.time.injEq, reduceCtorEq] at h <;> subst h <;> decide

theorem step_of_fits (h : Fits lookup v) (c : Config) :
    ∃ d, step lookup c v = .ok d ∧ Overlaid lookup [v] c d := by
  cases hraw : lookup v.name with
  | none =>
    refine ⟨set c v (get c v), ?_, ?_, ?_, set_logDir .., set_environment ..⟩
    · rw [step, Kind.read_absent hraw]
      rfl
    · rintro u -
      by_cases hu : u = v
      · rw [hu, get_set]
      · exact get_set_of_ne hu _
    · intro u hu raw hset
      rw [List.mem_singleton.1 hu, hraw] at hset
      cases hset
  | some raw =>
    obtain ⟨value?, hread, hgives⟩ := Kind.read_takes (greatest_le v) hraw (h raw hraw)
    refine ⟨set c v (value?.getD (get c v)), ?_, ?_, ?_, set_logDir .., set_environment ..⟩
    · rw [step, hread]
      rfl
    · rintro u (hu | hu)
      · exact get_set_of_ne (fun heq => hu (List.mem_singleton.2 heq)) _
      · by_cases heq : u = v
        · rw [heq, hraw] at hu
          cases hu
        · exact get_set_of_ne heq _
    · intro u hu other hset
      obtain rfl := List.mem_singleton.1 hu
      obtain rfl := Option.some.inj (hraw.symm.trans hset)
      rw [get_set]
      exact hgives _

theorem step_of_fails {fault : Fault} (h : Fails lookup v fault) (c : Config) :
    step lookup c v = .error fault := by
  obtain ⟨raw, hraw, hblames⟩ := h
  rw [step, hblames.read hraw]
  rfl

/-- Each variable has its own field, so that a run through several gives each of them its value. -/
theorem Overlaid.cons {e : Config} (hv : v ∉ vs) (hfirst : Overlaid lookup [v] c d)
    (hrest : Overlaid lookup vs d e) : Overlaid lookup (v :: vs) c e where
  kept u hu := by
    have hdone : u ∉ vs ∨ lookup u.name = none :=
      hu.imp_left fun hu hin => hu (List.mem_cons_of_mem v hin)
    have hstart : u ∉ [v] ∨ lookup u.name = none :=
      hu.imp_left fun hu hin => hu (List.mem_singleton.1 hin ▸ List.mem_cons_self)
    rw [hrest.kept u hdone, hfirst.kept u hstart]
  given u hu raw hraw := by
    rcases List.mem_cons.1 hu with rfl | hin
    · rw [hrest.kept u (.inl hv)]
      exact hfirst.given u (List.mem_singleton.2 rfl) raw hraw
    · have hne : u ∉ [v] := fun heq => hv (List.mem_singleton.1 heq ▸ hin)
      rw [← hfirst.kept u (.inl hne)]
      exact hrest.given u hin raw hraw
  logDir := hrest.logDir.trans hfirst.logDir
  environment := hrest.environment.trans hfirst.environment

theorem foldlM_of_fits (hvs : vs.Nodup) (h : ∀ v ∈ vs, Fits lookup v) (c : Config) :
    ∃ d, vs.foldlM (step lookup) c = .ok d ∧ Overlaid lookup vs c d := by
  induction vs generalizing c with
  | nil => exact ⟨c, rfl, fun _ _ => rfl, nofun, rfl, rfl⟩
  | cons v vs ih =>
    obtain ⟨hv, hvs⟩ := List.nodup_cons.1 hvs
    obtain ⟨hfits, hrest⟩ := List.forall_mem_cons.1 h
    obtain ⟨d, hstep, hfirst⟩ := step_of_fits hfits c
    obtain ⟨e, hrun, hbehind⟩ := ih hvs hrest d
    refine ⟨e, ?_, hfirst.cons hv hbehind⟩
    rw [List.foldlM_cons, hstep]
    exact hrun

/-- The first variable that fails ends the run, and the variables behind it are not asked for. -/
theorem foldlM_of_fails {fault : Fault} (hvs : vs.Nodup) (h : ∀ v ∈ vs, Fits lookup v)
    (hfails : Fails lookup v fault) (rest : List Variable) (c : Config) :
    (vs ++ v :: rest).foldlM (step lookup) c = .error fault := by
  obtain ⟨d, hrun, -⟩ := foldlM_of_fits hvs h c
  rw [List.foldlM_append, hrun]
  change (step lookup d v >>= _) = _
  rw [step_of_fails hfails]
  rfl

theorem exists_fails (h : ¬Fits lookup v) : ∃ fault, Fails lookup v fault := by
  obtain ⟨raw, hraw⟩ := not_forall.1 h
  obtain ⟨hset, htakes⟩ := Classical.not_imp.1 hraw
  obtain ⟨fault, hblames⟩ := Kind.exists_blames v.name htakes
  exact ⟨fault, raw, hset, hblames⟩

/-- Some variables all fit, or one of them is the first that fails. -/
theorem fits_or_fails (lookup : Lookup) (vs : List Variable) :
    (∀ v ∈ vs, Fits lookup v) ∨ ∃ before v rest fault, vs = before ++ v :: rest ∧
      (∀ u ∈ before, Fits lookup u) ∧ Fails lookup v fault := by
  induction vs with
  | nil => exact .inl nofun
  | cons v vs ih =>
    by_cases hv : Fits lookup v
    · rcases ih with hall | ⟨before, u, rest, fault, rfl, hbefore, hfails⟩
      · exact .inl (List.forall_mem_cons.2 ⟨hv, hall⟩)
      · exact .inr ⟨v :: before, u, rest, fault, rfl, List.forall_mem_cons.2 ⟨hv, hbefore⟩, hfails⟩
    · obtain ⟨fault, hfails⟩ := exists_fails hv
      exact .inr ⟨[], v, vs, fault, rfl, nofun, hfails⟩

end Variable

/-! ## Laws of overlays -/

open Variable

variable {lookup other : Lookup} {c d e : Config}

/-- Are the times of a configuration within the ranges of their variables? -/
def InRange (c : Config) : Prop := ∀ v : Variable, v.kind.InRange (get c v)

theorem overlay_of_fits (h : ∀ v, Fits lookup v) (c : Config) :
    ∃ d, overlay c lookup = .ok d ∧ Overlaid lookup all c d := by
  rw [overlay_eq_foldlM]
  exact foldlM_of_fits (by decide) (fun v _ => h v) c

theorem overlay_of_fails {before rest : List Variable} {v : Variable} {fault : Fault}
    (hall : all = before ++ v :: rest) (h : ∀ u ∈ before, Fits lookup u)
    (hfails : Fails lookup v fault) (c : Config) : overlay c lookup = .error fault := by
  have hnodup : (before ++ v :: rest).Nodup := hall ▸ (by decide : all.Nodup)
  rw [overlay_eq_foldlM, hall]
  exact foldlM_of_fails hnodup.of_append_left h hfails rest c

theorem fits_of_overlay (h : overlay c lookup = .ok d) : ∀ v, Fits lookup v := by
  rcases fits_or_fails lookup all with hfits | ⟨before, v, rest, fault, hall, hbefore, hfails⟩
  · exact fun v => hfits v v.mem_all
  · rw [overlay_of_fails hall hbefore hfails] at h
    cases h

theorem overlaid_of_overlay (h : overlay c lookup = .ok d) : Overlaid lookup all c d := by
  obtain ⟨e, he, hbehind⟩ := overlay_of_fits (fits_of_overlay h) c
  obtain rfl := Except.ok.inj (h.symm.trans he)
  exact hbehind

namespace Variable

theorem Overlaid.unique (hd : Overlaid lookup all c d) (he : Overlaid lookup all c e) : d = e := by
  refine ext_get (fun v => ?_) (hd.logDir.trans he.logDir.symm)
    (hd.environment.trans he.environment.symm)
  cases hraw : lookup v.name with
  | none => rw [hd.kept v (.inr hraw), he.kept v (.inr hraw)]
  | some raw => exact (hd.given v v.mem_all raw hraw).unique (he.given v v.mem_all raw hraw)

theorem Overlaid.again (h : Overlaid lookup all c d) : Overlaid lookup all d d where
  kept _ _ := rfl
  given v hv raw hraw := (h.given v hv raw hraw).again
  logDir := rfl
  environment := rfl

/-- Of two environments that set no variable in common, each finds the fields of its variables as
they were without the other. -/
theorem Overlaid.comm {both both' : Config}
    (happart : ∀ v : Variable, lookup v.name = none ∨ other v.name = none)
    (hd : Overlaid lookup all c d) (he : Overlaid other all c e)
    (hboth : Overlaid other all d both) (hboth' : Overlaid lookup all e both') : both = both' := by
  refine ext_get (fun v => ?_) ?_ ?_
  · rcases happart v with hnone | hnone
    · have hkept := hd.kept v (.inr hnone)
      rw [hboth'.kept v (.inr hnone)]
      cases hraw : other v.name with
      | none => rw [hboth.kept v (.inr hraw), he.kept v (.inr hraw), hkept]
      | some raw =>
        have hgiven := hboth.given v v.mem_all raw hraw
        rw [hkept] at hgiven
        exact hgiven.unique (he.given v v.mem_all raw hraw)
    · have hkept := he.kept v (.inr hnone)
      rw [hboth.kept v (.inr hnone)]
      cases hraw : lookup v.name with
      | none => rw [hboth'.kept v (.inr hraw), hd.kept v (.inr hraw), hkept]
      | some raw =>
        have hgiven := hboth'.given v v.mem_all raw hraw
        rw [hkept] at hgiven
        exact (hd.given v v.mem_all raw hraw).unique hgiven
  · rw [hboth.logDir, hd.logDir, hboth'.logDir, he.logDir]
  · rw [hboth.environment, hd.environment, hboth'.environment, he.environment]

theorem Overlaid.inRange (h : Overlaid lookup all c d) (hc : InRange c) : InRange d := by
  intro v
  cases hraw : lookup v.name with
  | none =>
    rw [h.kept v (.inr hraw)]
    exact hc v
  | some raw => exact (h.given v v.mem_all raw hraw).inRange

end Variable

theorem inRange_default : InRange {} := by
  intro v
  cases v <;> first | exact trivial | exact ⟨by decide, by decide⟩

theorem overlay_eq_error_iff {fault : Fault} :
    overlay c lookup = .error fault ↔ ∃ before v rest, all = before ++ v :: rest ∧
      (∀ u ∈ before, Fits lookup u) ∧ Fails lookup v fault := by
  constructor
  · intro h
    rcases fits_or_fails lookup all with hfits | ⟨before, v, rest, first, hall, hbefore, hfails⟩
    · obtain ⟨d, hd, -⟩ := overlay_of_fits (fun v => hfits v v.mem_all) c
      rw [hd] at h
      cases h
    · obtain rfl := Except.error.inj ((overlay_of_fails hall hbefore hfails c).symm.trans h)
      exact ⟨before, v, rest, hall, hbefore, hfails⟩
  · rintro ⟨before, v, rest, hall, hbefore, hfails⟩
    exact overlay_of_fails hall hbefore hfails c

theorem overlay_again (h : overlay c lookup = .ok d) : overlay d lookup = .ok d := by
  obtain ⟨e, he, hagain⟩ := overlay_of_fits (fits_of_overlay h) d
  rw [he, hagain.unique (overlaid_of_overlay h).again]

theorem overlay_comm (happart : ∀ v : Variable, lookup v.name = none ∨ other v.name = none)
    (hd : overlay c lookup = .ok d) (he : overlay c other = .ok e) :
    ∃ both, overlay d other = .ok both ∧ overlay e lookup = .ok both := by
  obtain ⟨both, hboth, hbehind⟩ := overlay_of_fits (fits_of_overlay he) d
  obtain ⟨both', hboth', hbehind'⟩ := overlay_of_fits (fits_of_overlay hd) e
  refine ⟨both, hboth, hboth'.trans ?_⟩
  rw [Overlaid.comm happart (overlaid_of_overlay hd) (overlaid_of_overlay he) hbehind hbehind']

theorem InRange.least (h : InRange c) : ∀ span ∈
    [c.expectTimeout, c.pollInterval, c.endpointPollInterval, c.drainGrace],
    (Span.ofMillis 1).nanos ≤ span.nanos := by
  simp only [List.forall_mem_cons]
  exact ⟨(h .expectTimeout).1, (h .pollInterval).1, (h .endpointPollInterval).1,
    (h .drainGrace).1, nofun⟩

/-- The laws of overlays. One succeeds just if each variable is left out or set to a text that may
be taken, and otherwise ends in the fault of the first variable that is not. If it succeeds, each
variable has given its field its value and left every other field alone; overlaying once more
changes nothing, an overlay that sets none of the same variables may as well come first, and times
that are within their ranges stay so. The times of the defaults are, so that those of every
configuration from an environment are a millisecond at least. -/
theorem overlay_by_variable (c : Config) (lookup : Lookup) :
    ((∃ d, overlay c lookup = .ok d) ↔
      ∀ (v : Variable) (raw : String), lookup v.name = some raw → v.kind.Takes raw) ∧
    (∀ fault, overlay c lookup = .error fault ↔
      ∃ before v rest raw, Variable.all = before ++ v :: rest ∧
        (∀ u ∈ before, ∀ raw, lookup u.name = some raw → u.kind.Takes raw) ∧
        lookup v.name = some raw ∧ v.kind.Blames v.name raw fault) ∧
    (∀ d, overlay c lookup = .ok d →
      (∀ v : Variable, (lookup v.name = none → v.get d = v.get c) ∧
        ∀ raw, lookup v.name = some raw → v.kind.Gives raw (v.get c) (v.get d)) ∧
      d.logDir = c.logDir ∧ d.environment = c.environment ∧
      overlay d lookup = .ok d ∧
      (∀ other e, overlay c other = .ok e →
        (∀ v : Variable, lookup v.name = none ∨ other v.name = none) →
        ∃ both, overlay d other = .ok both ∧ overlay e lookup = .ok both) ∧
      (InRange c → InRange d)) ∧
    InRange {} ∧ ∀ d, ofEnvironment lookup = .ok d → InRange d ∧
      ∀ span ∈ [d.expectTimeout, d.pollInterval, d.endpointPollInterval, d.drainGrace],
        (Span.ofMillis 1).nanos ≤ span.nanos := by
  refine ⟨⟨?_, ?_⟩, fun fault => overlay_eq_error_iff.trans ⟨?_, ?_⟩, ?_, inRange_default, ?_⟩
  · rintro ⟨d, hd⟩
    exact fits_of_overlay hd
  · intro h
    obtain ⟨d, hd, -⟩ := overlay_of_fits h c
    exact ⟨d, hd⟩
  · rintro ⟨before, v, rest, hall, hbefore, raw, hraw, hblames⟩
    exact ⟨before, v, rest, raw, hall, hbefore, hraw, hblames⟩
  · rintro ⟨before, v, rest, raw, hall, hbefore, hraw, hblames⟩
    exact ⟨before, v, rest, hall, hbefore, raw, hraw, hblames⟩
  · intro d hd
    have hbehind := overlaid_of_overlay hd
    refine ⟨fun v => ⟨fun hnone => hbehind.kept v (.inr hnone), hbehind.given v v.mem_all⟩,
      hbehind.logDir, hbehind.environment, overlay_again hd, ?_, hbehind.inRange⟩
    intro other e he happart
    exact overlay_comm happart hd he
  · intro d hd
    have hrange := (overlaid_of_overlay hd).inRange inRange_default
    exact ⟨hrange, hrange.least⟩

example : overlay {} (fun name =>
      if name = "CMDTEST_DRAIN_GRACE_MS" then some " +0 "
      else if name = "CMDTEST_QUIET" then some "maybe" else none) =
    .error (.outOfRange "CMDTEST_DRAIN_GRACE_MS" " +0 " 1 60000) := by
  rfl

end DaemonDialogue.Config
