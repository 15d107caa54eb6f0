import DaemonDialogue.Proofs.Lookup
import DaemonDialogue.Proofs.Template.Rendering

/-!
# Renderings side by side

Two renderings of one template go side by side as long as their functions and their scopes answer
alike: in states that are alike they have the same values, and leave states that are alike behind.
Of the functions only those matter that the template mentions. Both renderings then have the same
text or the same error, and the same calls and actions in the same order.
-/

namespace DaemonDialogue.Template

section

variable {σ α : Type} (R : σ → σ → Prop)

/-- Have two registries no function of a name, or both one, and do these answer alike? -/
structure Registry.AgreeOn (funcs others : Registry σ) (name : String) : Prop where
  contains : funcs.contains name = others.contains name
  call : ∀ {s s' next : σ} {value : String}, R s s' → funcs.call? name s = some (value, next) →
    ∃ next', others.call? name s' = some (value, next') ∧ R next next'

/-- Do two scopes answer alike? -/
structure Scope.Alike (scope other : Scope σ) : Prop where
  hasField : ∀ {s s'}, R s s' → scope.hasField s = other.hasField s'
  field? : ∀ {s s'}, R s s' → scope.field? s = other.field? s'
  hasAction : ∀ {s s'}, R s s' → scope.hasAction s = other.hasAction s'
  act : ∀ {s s'} (name argument : String), R s s' →
    (scope.act s name argument).2 = (other.act s' name argument).2 ∧
      R (scope.act s name argument).1 (other.act s' name argument).1

/-- Have two renderings come equally far? -/
structure Progress.Alike (p q : Progress σ) : Prop where
  state : R p.state q.state
  events : p.events = q.events
  text : p.text = q.text

/-- Do two results have the same value or the same error, equally far? -/
inductive EndAlike :
    EStateM.Result Error (Progress σ) α → EStateM.Result Error (Progress σ) α → Prop
  | ok (value : α) {p q : Progress σ} (h : p.Alike R q) : EndAlike (.ok value p) (.ok value q)
  | error (e : Error) {p q : Progress σ} (h : p.Alike R q) : EndAlike (.error e p) (.error e q)

/-- Do two renderings end alike wherever they begin equally far? -/
def SideBySide (x y : Rendering σ α) : Prop :=
  ∀ p q, p.Alike R q → EndAlike R (x p) (y q)

/-- Are two outcomes the same, and alike in the states that they leave? -/
structure Outcome.Alike (outcome other : Outcome σ) : Prop where
  result : outcome.result = other.result
  events : outcome.events = other.events
  state : R outcome.state other.state

end

/-! ## Functions of fixed values -/

namespace Registry

variable {σ : Type} {r : Registry σ}

/-- Have all functions always the same value, and do they leave everything as it is? -/
def Fixed (r : Registry σ) : Prop :=
  ∀ name value s next, r.call? name s = some (value, next) →
    next = s ∧ ∀ s', r.call? name s' = some (value, s')

theorem fixed_empty : ({} : Registry σ).Fixed := by
  intro name value s next hcall
  cases hcall

theorem Fixed.setValue (h : r.Fixed) (known text : String) : (r.setValue known text).Fixed := by
  have hcall (name : String) (s : σ) : (r.setValue known text).call? name s =
      if name = known then some (text, s) else r.call? name s := by
    simp only [call?, function?, Registry.setValue, set, List.lookup_append, lookup_removed,
      lookup_cons_eq]
    split_ifs <;> simp
  intro name value s next hfirst
  rw [hcall] at hfirst
  split_ifs at hfirst with hname
  · cases hfirst
    refine ⟨rfl, fun s' => ?_⟩
    rw [hcall, if_pos hname]
  · obtain ⟨hnext, hvalue⟩ := h name value s next hfirst
    refine ⟨hnext, fun s' => ?_⟩
    rw [hcall, if_neg hname]
    exact hvalue s'

theorem Fixed.agreeOn {R : σ → σ → Prop} (h : r.Fixed) (name : String) : r.AgreeOn R r name where
  contains := rfl
  call {s s' next value} hs hcall := by
    obtain ⟨rfl, hvalue⟩ := h name value s next hcall
    exact ⟨s', hvalue s', hs⟩

theorem fixed_ofList (values : List (String × String)) : (ofList values : Registry σ).Fixed := by
  have hfold (r : Registry σ) (h : r.Fixed) :
      (values.foldl (fun r e => r.setValue e.1 e.2) r).Fixed := by
    induction values generalizing r with
    | nil => exact h
    | cons e rest ih => exact ih _ (h.setValue e.1 e.2)
  exact hfold {} fixed_empty

end Registry

section

variable {σ α β : Type} {R : σ → σ → Prop} {funcs others : Registry σ} {scope other : Scope σ}
  {s s' : σ}

/-! ## Names -/

theorem isKnown_alike (hscope : scope.Alike R other) (hs : R s s') {m : Mention}
    (hm : ∀ name, m = .function name → funcs.AgreeOn R others name) :
    m.isKnown funcs scope s = m.isKnown others other s' := by
  cases m with
  | function name => exact (hm name rfl).contains
  | field name => exact congrFun (hscope.hasField hs) name
  | action name => exact congrFun (hscope.hasAction hs) name

theorem verdict_congr {mentions : List Mention}
    (h : ∀ m ∈ mentions, m.isKnown funcs scope s = m.isKnown others other s') :
    Mention.verdict funcs scope s mentions = Mention.verdict others other s' mentions := by
  induction mentions with
  | nil => rfl
  | cons m rest ih =>
    obtain ⟨hm, hrest⟩ := List.forall_mem_cons.1 h
    rw [Mention.verdict, Mention.verdict, hm, ih hrest]

/-! ## Steps -/

theorem SideBySide.bind {x y : Rendering σ α} {f g : α → Rendering σ β} (h : SideBySide R x y)
    (hnext : ∀ value, SideBySide R (f value) (g value)) : SideBySide R (x >>= f) (y >>= g) := by
  intro p q hpq
  have hends := h p q hpq
  simp only [Bind.bind, EStateM.bind]
  generalize x p = first at hends
  generalize y q = second at hends
  cases hends with
  | ok value h => exact hnext value _ _ h
  | error e h => exact .error e h

theorem sideBySide_emit (text : String) : SideBySide R (emit text) (emit text) := by
  intro p q h
  rw [emit_eq, emit_eq, h.text]
  exact .ok () ⟨h.state, h.events, rfl⟩

theorem callFunction_none {name : String} {p : Progress σ}
    (h : funcs.call? name p.state = none) :
    callFunction funcs name p = .error (.unresolved name) p := by
  simp only [callFunction, bind, EStateM.bind, get_eq, h]
  rfl

theorem sideBySide_callFunction {name : String} (h : funcs.AgreeOn R others name) :
    SideBySide R (callFunction funcs name) (callFunction others name) := by
  intro p q hpq
  cases hcontains : funcs.contains name with
  | true =>
    obtain ⟨value, next, hcall⟩ := exists_call hcontains p.state
    obtain ⟨next', hcall', hnext⟩ := h.call hpq.state hcall
    rw [callFunction_eq hcall, callFunction_eq hcall', hpq.text, hpq.events]
    exact .ok value ⟨hnext, rfl, rfl⟩
  | false =>
    have hcontains' := hcontains
    rw [h.contains] at hcontains'
    rw [callFunction_none (by simpa [Registry.contains, Registry.call?] using hcontains),
      callFunction_none (by simpa [Registry.contains, Registry.call?] using hcontains')]
    exact .error _ hpq

theorem sideBySide_runAction (hscope : scope.Alike R other) (name argument : String) :
    SideBySide R (runAction scope name argument) (runAction other name argument) := by
  intro p q hpq
  obtain ⟨hresult, hnext⟩ := hscope.act name argument hpq.state
  rcases hact : scope.act p.state name argument with ⟨next, e | value⟩
  · rcases hact' : other.act q.state name argument with ⟨next', result⟩
    rw [hact, hact'] at hresult hnext
    obtain rfl : Except.error e = result := hresult
    rw [runAction_error hact, runAction_error hact', hpq.text, hpq.events]
    exact .error e ⟨hnext, rfl, rfl⟩
  · rcases hact' : other.act q.state name argument with ⟨next', result⟩
    rw [hact, hact'] at hresult hnext
    obtain rfl : Except.ok value = result := hresult
    rw [runAction_ok hact, runAction_ok hact', hpq.text, hpq.events]
    exact .ok () ⟨hnext, rfl, rfl⟩

theorem sideBySide_field (hscope : scope.Alike R other) (name : String) :
    SideBySide R (renderNode funcs scope (.field name)) (renderNode others other (.field name)) := by
  intro p q hpq
  have hvalue := congrFun (hscope.field? hpq.state) name
  rw [renderNode, renderNode]
  simp only [bind, EStateM.bind, get_eq, hvalue]
  cases other.field? q.state name with
  | some value => exact sideBySide_emit value p q hpq
  | none => exact .error _ hpq

/-! ## Renderings -/

mutual

theorem sideBySide_node (hscope : scope.Alike R other) (node : Node)
    (hnames : ∀ name, .function name ∈ node.mentions → funcs.AgreeOn R others name) :
    SideBySide R (renderNode funcs scope node) (renderNode others other node) := by
  cases node with
  | text content => exact sideBySide_emit content
  | function name =>
    rw [renderNode, renderNode]
    have hname := hnames name (by simp [Node.mentions])
    exact (sideBySide_callFunction hname).bind sideBySide_emit
  | field name => exact sideBySide_field hscope name
  | action name argument => exact sideBySide_runAction hscope name argument
  | choice condition yes no =>
    rw [renderNode, renderNode]
    have hcondition := hnames condition (by simp [Node.mentions])
    refine (sideBySide_callFunction hcondition).bind ?_
    intro value
    split_ifs
    · exact sideBySide_nodes hscope yes fun name hname =>
        hnames name (by simp [Node.mentions, hname])
    · exact sideBySide_nodes hscope no fun name hname =>
        hnames name (by simp [Node.mentions, hname])

theorem sideBySide_nodes (hscope : scope.Alike R other) (nodes : List Node)
    (hnames : ∀ name, .function name ∈ Node.mentionsOf nodes → funcs.AgreeOn R others name) :
    SideBySide R (renderNodes funcs scope nodes) (renderNodes others other nodes) := by
  cases nodes with
  | nil => exact fun _ _ h => .ok () h
  | cons node rest =>
    rw [renderNodes, renderNodes]
    refine (sideBySide_node hscope node ?_).bind ?_
    · exact fun name hname => hnames name (by simp [Node.mentionsOf, hname])
    · exact fun _ => sideBySide_nodes hscope rest fun name hname =>
        hnames name (by simp [Node.mentionsOf, hname])

end

theorem check_alike (hscope : scope.Alike R other) (hs : R s s') (t : Template)
    (hnames : ∀ name, .function name ∈ Node.mentionsOf t.nodes → funcs.AgreeOn R others name) :
    t.check funcs scope s = t.check others other s' := by
  rw [check_eq_verdict, check_eq_verdict]
  apply verdict_congr
  intro m hm
  apply isKnown_alike hscope hs
  rintro name rfl
  exact hnames name hm

theorem render_alike (hscope : scope.Alike R other) (hs : R s s') (t : Template)
    (hnames : ∀ name, .function name ∈ Node.mentionsOf t.nodes → funcs.AgreeOn R others name) :
    (t.render funcs scope s).Alike R (t.render others other s') := by
  unfold render
  rw [check_alike hscope hs t hnames]
  cases t.check others other s' with
  | error e => exact ⟨rfl, rfl, hs⟩
  | ok _ =>
    have hends := sideBySide_nodes hscope t.nodes hnames ⟨s, #[], ""⟩ ⟨s', #[], ""⟩ ⟨hs, rfl, rfl⟩
    dsimp only
    generalize renderNodes funcs scope t.nodes ⟨s, #[], ""⟩ = first at hends
    generalize renderNodes others other t.nodes ⟨s', #[], ""⟩ = second at hends
    cases hends with
    | ok _ h => exact ⟨congrArg Except.ok h.text, congrArg Array.toList h.events, h.state⟩
    | error e h => exact ⟨rfl, congrArg Array.toList h.events, h.state⟩

end

end DaemonDialogue.Template

/-!
## What a template depends on

The functions that a template depends on are those that it mentions in any branch, in order and
each once. A rendering cannot tell registries apart that agree on these, and does not begin where
one of them is missing.
-/

namespace DaemonDialogue.Template

/-! ### Sorted names -/

theorem mem_insertName {name other : String} {names : List String} :
    other ∈ insertName name names ↔ other = name ∨ other ∈ names := by
  induction names with
  | nil => simp [insertName]
  | cons first rest ih =>
    rw [insertName]
    split_ifs with hsame hbefore
    · obtain rfl : name = first := by simpa using hsame
      simp
    · simp
    · rw [List.mem_cons, ih, List.mem_cons]
      exact or_left_comm

theorem pairwise_insertName {name : String} {names : List String}
    (h : names.Pairwise (· < ·)) : (insertName name names).Pairwise (· < ·) := by
  induction names with
  | nil => simp [insertName]
  | cons first rest ih =>
    obtain ⟨hfirst, hrest⟩ := List.pairwise_cons.1 h
    rw [insertName]
    split_ifs with hsame hbefore
    · exact h
    · refine List.pairwise_cons.2 ⟨?_, h⟩
      intro other hother
      rcases List.mem_cons.1 hother with rfl | hother
      · exact hbefore
      · exact String.lt_trans hbefore (hfirst other hother)
    · have hne : first ≠ name := by
        rintro rfl
        simp at hsame
      have hlt : first < name := by
        by_contra hlater
        exact hne (String.le_antisymm (String.not_lt.1 hbefore) (String.not_lt.1 hlater))
      refine List.pairwise_cons.2 ⟨?_, ih hrest⟩
      intro other hother
      rcases mem_insertName.1 hother with rfl | hother
      · exact hlt
      · exact hfirst other hother

theorem mem_foldl_insertName {name : String} (added names : List String) :
    name ∈ added.foldl (fun names name => insertName name names) names ↔
      name ∈ added ∨ name ∈ names := by
  induction added generalizing names with
  | nil => simp
  | cons first rest ih =>
    rw [List.foldl_cons, ih, mem_insertName, List.mem_cons]
    tauto

theorem pairwise_foldl_insertName (added : List String) {names : List String}
    (h : names.Pairwise (· < ·)) :
    (added.foldl (fun names name => insertName name names) names).Pairwise (· < ·) := by
  induction added generalizing names with
  | nil => exact h
  | cons first rest ih => exact ih (pairwise_insertName h)

/-! ### Mentions of functions -/

mutual

theorem mem_functions {name : String} (node : Node) :
    name ∈ node.functions ↔ .function name ∈ node.mentions := by
  cases node with
  | text content => simp [Node.functions, Node.mentions]
  | function other => simp [Node.functions, Node.mentions]
  | field other => simp [Node.functions, Node.mentions]
  | action other argument => simp [Node.functions, Node.mentions]
  | choice condition yes no =>
    simp [Node.functions, Node.mentions, mem_functionsOf yes, mem_functionsOf no]

theorem mem_functionsOf {name : String} (nodes : List Node) :
    name ∈ Node.functionsOf nodes ↔ .function name ∈ Node.mentionsOf nodes := by
  cases nodes with
  | nil => simp [Node.functionsOf, Node.mentionsOf]
  | cons node rest =>
    simp [Node.functionsOf, Node.mentionsOf, mem_functions node, mem_functionsOf rest]

end

theorem mem_placeholders {name : String} {t : Template} :
    name ∈ t.placeholders ↔ .function name ∈ Node.mentionsOf t.nodes := by
  rw [placeholders, mem_foldl_insertName, mem_functionsOf]
  simp

/-- A check fails on some name if there is one that is not known, and nothing is rendered then. -/
theorem exists_unknown {σ : Type} {funcs : Registry σ} {scope : Scope σ} {s : σ} {t : Template}
    {m : Mention} (hm : m ∈ Node.mentionsOf t.nodes) (h : m.isKnown funcs scope s = false) :
    ∃ e, t.check funcs scope s = .error e ∧ t.render funcs scope s = ⟨.error e, s, []⟩ := by
  cases hcheck : t.check funcs scope s with
  | error e => exact ⟨e, rfl, by rw [render, hcheck]⟩
  | ok _ =>
    rw [check_eq_verdict, Mention.verdict_eq_ok_iff] at hcheck
    rw [hcheck m hm] at h
    cases h

/-- The placeholders of a template are just what it depends on, in order and each once. Registries
that agree on them, in that both have no such function or that both have one and these answer
alike, give the same result of the check, the same text or error, and the same calls and actions,
with a scope that answers alike. And a registry that has no function of one of them fails the
check, and the rendering in the same way, before anything is called. -/
theorem placeholders_exact (t : Template) :
    t.placeholders.Pairwise (· < ·) ∧
    (∀ (σ : Type) (R : σ → σ → Prop) (funcs others : Registry σ) (scope : Scope σ) (s s' : σ),
      scope.Alike R scope → R s s' → (∀ name ∈ t.placeholders, funcs.AgreeOn R others name) →
      t.check funcs scope s = t.check others scope s' ∧
        (t.render funcs scope s).Alike R (t.render others scope s')) ∧
    (∀ name ∈ t.placeholders, ∀ (σ : Type) (funcs : Registry σ) (scope : Scope σ) (s : σ),
      funcs.contains name = false →
      ∃ e, t.check funcs scope s = .error e ∧ t.render funcs scope s = ⟨.error e, s, []⟩) := by
  refine ⟨pairwise_foldl_insertName _ .nil, ?_, ?_⟩
  · intro σ R funcs others scope s s' hscope hs hagree
    have hnames : ∀ name, .function name ∈ Node.mentionsOf t.nodes → funcs.AgreeOn R others name :=
      fun name hname => hagree name (mem_placeholders.2 hname)
    exact ⟨check_alike hscope hs t hnames, render_alike hscope hs t hnames⟩
  · intro name hname σ funcs scope s hmissing
    exact exists_unknown (mem_placeholders.1 hname) hmissing

/-- Functions that count their calls, and functions with the same values that do not: the scope
shows nothing of the count. The function that goes missing stands in a branch that is not taken. -/
theorem placeholders_exact_counting :
    let t : Template :=
      ⟨"", [.choice "a" [.function "b"] [.function "c"], .action "say" "x"]⟩
    let counting : Registry Nat :=
      ⟨[("c", fun k => ("C", k + 1)), ("b", fun k => ("B", k + 1)), ("a", fun k => ("yes", k + 1))]⟩
    let fixed : Registry Nat := .ofList [("a", "yes"), ("b", "B"), ("c", "C"), ("d", "D")]
    let scope : Scope Nat :=
      ⟨fun _ _ => false, fun _ _ => none, fun _ _ => true, fun k _ argument => (k, .ok argument)⟩
    t.placeholders = ["a", "b", "c"] ∧
      (t.render counting scope 0).Alike (fun _ _ => True) (t.render fixed scope 0) ∧
      ∃ e, t.check (fixed.remove "c") scope 0 = .error e ∧
        t.render (fixed.remove "c") scope 0 = ⟨.error e, 0, []⟩ := by
  intro t counting fixed scope
  have hnames : t.placeholders = ["a", "b", "c"] := by rfl
  have hscope : scope.Alike (fun _ _ => True) scope :=
    ⟨fun _ => rfl, fun _ => rfl, fun _ => rfl, fun _ _ _ => ⟨rfl, trivial⟩⟩
  have hagree : ∀ name ∈ t.placeholders, counting.AgreeOn (fun _ _ => True) fixed name := by
    rw [hnames]
    simp only [List.forall_mem_cons, List.not_mem_nil, false_imp_iff, implies_true, and_true]
    refine ⟨⟨rfl, fun _ hcall => ?_⟩, ⟨rfl, fun _ hcall => ?_⟩, ⟨rfl, fun _ hcall => ?_⟩⟩
    all_goals
      cases hcall
      exact ⟨_, rfl, trivial⟩
  obtain ⟨-, halike, hmissing⟩ := placeholders_exact t
  exact ⟨hnames, (halike Nat _ counting fixed scope 0 0 hscope trivial hagree).2,
    hmissing "c" (by simp [hnames]) Nat (fixed.remove "c") scope 0 rfl⟩

end DaemonDialogue.Template
