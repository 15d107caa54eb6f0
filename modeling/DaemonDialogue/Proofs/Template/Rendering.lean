import DaemonDialogue.Template.Render
import Mathlib.Tactic

/-!
# What a rendering does

A check goes through all names of a template in the order of the text, those of both branches of
a choice included. A rendering that passes it goes along one path through the template, as the
values of the conditions say, and does what it meets there one after the other: up to the end, or
up to the first action that fails.
-/

namespace DaemonDialogue.Template

/-! ## Names -/

/-- A name in a template, by what it is a name of. -/
inductive Mention
  | function (name : String)
  | field (name : String)
  | action (name : String)
  deriving DecidableEq, Repr

def Mention.error : Mention → Error
  | .function name => .unresolved name
  | .field name => .unknownField name
  | .action name => .unknownAction name

mutual

/-- The names of a node in the order of the text: of a choice the condition, then those of its
first branch, then those of its second. -/
def Node.mentions : Node → List Mention
  | .text _ => []
  | .function name => [.function name]
  | .field name => [.field name]
  | .action name _ => [.action name]
  | .choice condition yes no =>
    .function condition :: (Node.mentionsOf yes ++ Node.mentionsOf no)

def Node.mentionsOf : List Node → List Mention
  | [] => []
  | node :: rest => node.mentions ++ Node.mentionsOf rest

end

/-! ## Paths -/

/-- Something that a rendering meets, and the value it has there. -/
inductive Site
  | literal (text : String)
  | call (name value : String)
  | test (condition value : String)
  | field (name value : String)
  | act (name argument value : String)
  deriving DecidableEq, Repr

namespace Site

def inserted : Site → String
  | .literal text => text
  | .call _ value => value
  | .test _ _ => ""
  | .field _ value => value
  | .act _ _ value => value

/-- What happens. -/
def event? : Site → Option Event
  | .literal _ => none
  | .call name _ => some (.call name)
  | .test condition _ => some (.call condition)
  | .field _ _ => none
  | .act name argument _ => some (.act name argument)

def text : List Site → String
  | [] => ""
  | site :: rest => site.inserted ++ text rest

/-- The calls and actions along some sites. -/
def events (sites : List Site) : List Event := sites.filterMap event?

end Site

mutual

/-- Is this what can be met in a node, one after the other? Of a choice it is the condition, and
then what can be met in the branch that its value takes. -/
inductive Node.Path : Node → List Site → Prop
  | text (content : String) : Node.Path (.text content) [.literal content]
  | function (name value : String) : Node.Path (.function name) [.call name value]
  | field (name value : String) : Node.Path (.field name) [.field name value]
  | action (name argument value : String) :
    Node.Path (.action name argument) [.act name argument value]
  | choice (condition value : String) {yes no : List Node} {sites : List Site}
    (branch : Node.PathOf (if isTruthy value then yes else no) sites) :
    Node.Path (.choice condition yes no) (.test condition value :: sites)

inductive Node.PathOf : List Node → List Site → Prop
  | nil : Node.PathOf [] []
  | cons {node : Node} {rest : List Node} {sites others : List Site}
    (first : Node.Path node sites) (behind : Node.PathOf rest others) :
    Node.PathOf (node :: rest) (sites ++ others)

end

section

variable {σ : Type} (funcs : Registry σ) (scope : Scope σ)

def Mention.isKnown (s : σ) : Mention → Bool
  | .function name => funcs.contains name
  | .field name => scope.hasField s name
  | .action name => scope.hasAction s name

/-- Does a site have its value in a state, and leave another state behind? -/
def Site.Happens (s : σ) : Site → σ → Prop
  | .literal _, s' => s' = s
  | .call name value, s' => funcs.call? name s = some (value, s')
  | .test condition value, s' => funcs.call? condition s = some (value, s')
  | .field name value, s' => scope.field? s name = some value ∧ s' = s
  | .act name argument value, s' => scope.act s name argument = (s', .ok value)

/-- Do sites happen one after the other, each in the state that the one before leaves? -/
inductive Site.HappenAll : σ → List Site → σ → Prop
  | nil (s : σ) : Site.HappenAll s [] s
  | cons {s s' s'' : σ} {site : Site} {rest : List Site} (first : site.Happens funcs scope s s')
    (behind : Site.HappenAll s' rest s'') : Site.HappenAll s (site :: rest) s''

/-- Can a state come about from another by calls and actions? -/
inductive Reaches : σ → σ → Prop
  | refl (s : σ) : Reaches s s
  | call {s s' s'' : σ} {name value : String} (before : Reaches s s')
    (called : funcs.call? name s' = some (value, s'')) : Reaches s s''
  | act {s s' s'' : σ} {name argument : String} {result : Except Error String}
    (before : Reaches s s') (acted : scope.act s' name argument = (s'', result)) : Reaches s s''

/-- Does every field that a scope says it has have a value, now and behind calls and actions? -/
def Scope.KeepsWord (s : σ) : Prop :=
  ∀ s', Reaches funcs scope s s' → ∀ name, scope.hasField s name = true →
    ∃ value, scope.field? s' name = some value

/-- An outcome with a text: everything along a path has happened, and its values are inserted. -/
def Completes (nodes : List Node) (s : σ) (outcome : Outcome σ) : Prop :=
  ∃ sites s', Node.PathOf nodes sites ∧ Site.HappenAll funcs scope s sites s' ∧
    outcome = ⟨.ok (Site.text sites), s', Site.events sites⟩

/-- An outcome with the error of an action: what is before it on a path has happened, and it is
the last that has. -/
def Stops (nodes : List Node) (s : σ) (outcome : Outcome σ) : Prop :=
  ∃ before name argument value behind s' s'' e,
    Node.PathOf nodes (before ++ .act name argument value :: behind) ∧
    Site.HappenAll funcs scope s before s' ∧ scope.act s' name argument = (s'', .error e) ∧
    outcome = ⟨.error e, s'', Site.events before ++ [.act name argument]⟩

end

section

variable {σ : Type} {funcs : Registry σ} {scope : Scope σ} {s : σ}

/-! ## Checking -/

/-- What a check says about names in their order. -/
def Mention.verdict (funcs : Registry σ) (scope : Scope σ) (s : σ) :
    List Mention → Except Error Unit
  | [] => .ok ()
  | m :: rest =>
    if m.isKnown funcs scope s then verdict funcs scope s rest else .error m.error

theorem Mention.verdict_append (first second : List Mention) :
    verdict funcs scope s (first ++ second) =
      match verdict funcs scope s first with
      | .error e => .error e
      | .ok () => verdict funcs scope s second := by
  induction first with
  | nil => rfl
  | cons m rest ih =>
    rw [List.cons_append, verdict, verdict, ih]
    split_ifs <;> rfl

theorem Mention.verdict_eq_ok_iff (mentions : List Mention) :
    verdict funcs scope s mentions = .ok () ↔
      ∀ m ∈ mentions, m.isKnown funcs scope s = true := by
  induction mentions with
  | nil => simp [verdict]
  | cons m rest ih =>
    rw [verdict, List.forall_mem_cons, ← ih]
    split_ifs with h <;> simp [h]

/-- The first name that is not known decides. -/
theorem Mention.verdict_unknown {before : List Mention} {m : Mention} (behind : List Mention)
    (hbefore : ∀ other ∈ before, other.isKnown funcs scope s = true)
    (h : m.isKnown funcs scope s = false) :
    verdict funcs scope s (before ++ m :: behind) = .error m.error := by
  rw [verdict_append, (verdict_eq_ok_iff before).2 hbefore]
  simp [verdict, h]

mutual

theorem checkNode_eq (node : Node) :
    checkNode funcs scope s node = Mention.verdict funcs scope s node.mentions := by
  cases node with
  | text content => rfl
  | function name => rfl
  | field name => rfl
  | action name argument => rfl
  | choice condition yes no =>
    rw [Node.mentions, Mention.verdict, Mention.verdict_append, ← checkNodes_eq yes,
      ← checkNodes_eq no]
    rfl

theorem checkNodes_eq (nodes : List Node) :
    checkNodes funcs scope s nodes = Mention.verdict funcs scope s (Node.mentionsOf nodes) := by
  cases nodes with
  | nil => rfl
  | cons node rest =>
    rw [Node.mentionsOf, Mention.verdict_append, ← checkNode_eq node, ← checkNodes_eq rest]
    rfl

end

/-! ## Sites -/

@[simp] theorem Site.text_append (sites others : List Site) :
    Site.text (sites ++ others) = Site.text sites ++ Site.text others := by
  induction sites with
  | nil => simp [Site.text]
  | cons site rest ih => simp [Site.text, ih, String.append_assoc]

@[simp] theorem Site.events_append (sites others : List Site) :
    Site.events (sites ++ others) = Site.events sites ++ Site.events others :=
  List.filterMap_append

theorem Site.HappenAll.single {site : Site} {s' : σ} (h : site.Happens funcs scope s s') :
    Site.HappenAll funcs scope s [site] s' :=
  .cons h (.nil s')

theorem Site.HappenAll.append {sites others : List Site} {s' s'' : σ}
    (h : Site.HappenAll funcs scope s sites s') (hothers : Site.HappenAll funcs scope s' others s'') :
    Site.HappenAll funcs scope s (sites ++ others) s'' := by
  induction h with
  | nil => exact hothers
  | cons first _ ih => exact .cons first (ih hothers)

theorem Reaches.happens {site : Site} {s' s'' : σ} (h : Reaches funcs scope s s')
    (hsite : site.Happens funcs scope s' s'') : Reaches funcs scope s s'' := by
  cases site with
  | literal text =>
    obtain rfl := hsite
    exact h
  | call name value => exact h.call hsite
  | test condition value => exact h.call hsite
  | field name value =>
    obtain ⟨-, rfl⟩ := hsite
    exact h
  | act name argument value => exact h.act hsite

theorem Reaches.happenAll {sites : List Site} {s' s'' : σ} (h : Reaches funcs scope s s')
    (hsites : Site.HappenAll funcs scope s' sites s'') : Reaches funcs scope s s'' := by
  induction hsites with
  | nil => exact h
  | cons first _ ih => exact ih (h.happens first)

mutual

theorem Node.exists_path (node : Node) : ∃ sites, Node.Path node sites := by
  cases node with
  | text content => exact ⟨_, .text content⟩
  | function name => exact ⟨_, .function name ""⟩
  | field name => exact ⟨_, .field name ""⟩
  | action name argument => exact ⟨_, .action name argument ""⟩
  | choice condition yes no =>
    obtain ⟨sites, hsites⟩ := Node.exists_pathOf no
    exact ⟨_, .choice condition "" (by simpa [isTruthy] using hsites)⟩

theorem Node.exists_pathOf (nodes : List Node) : ∃ sites, Node.PathOf nodes sites := by
  cases nodes with
  | nil => exact ⟨_, .nil⟩
  | cons node rest =>
    obtain ⟨sites, hsites⟩ := Node.exists_path node
    obtain ⟨others, hothers⟩ := Node.exists_pathOf rest
    exact ⟨_, .cons hsites hothers⟩

end

def Site.mention? : Site → Option Mention
  | .literal _ => none
  | .call name _ => some (.function name)
  | .test condition _ => some (.function condition)
  | .field name _ => some (.field name)
  | .act name _ _ => some (.action name)

mutual

theorem Node.mentioned (node : Node) {sites : List Site} (h : Node.Path node sites) {site : Site}
    (hsite : site ∈ sites) {m : Mention} (hm : site.mention? = some m) : m ∈ node.mentions := by
  cases node with
  | text content =>
    cases h
    obtain rfl := List.mem_singleton.1 hsite
    cases hm
  | function name =>
    cases h
    obtain rfl := List.mem_singleton.1 hsite
    cases hm
    exact .head _
  | field name =>
    cases h
    obtain rfl := List.mem_singleton.1 hsite
    cases hm
    exact .head _
  | action name argument =>
    cases h
    obtain rfl := List.mem_singleton.1 hsite
    cases hm
    exact .head _
  | choice condition yes no =>
    rw [Node.mentions, List.mem_cons, List.mem_append]
    rcases h with _ | _ | _ | _ | ⟨_, value, branch⟩
    rcases List.mem_cons.1 hsite with rfl | hbehind
    · cases hm
      exact .inl rfl
    · split_ifs at branch
      · exact .inr (.inl (Node.mentionedOf yes branch hbehind hm))
      · exact .inr (.inr (Node.mentionedOf no branch hbehind hm))

/-- Every name that is met along a path through a template stands in it. -/
theorem Node.mentionedOf (nodes : List Node) {sites : List Site} (h : Node.PathOf nodes sites)
    {site : Site} (hsite : site ∈ sites) {m : Mention} (hm : site.mention? = some m) :
    m ∈ Node.mentionsOf nodes := by
  cases nodes with
  | nil =>
    cases h
    cases hsite
  | cons node rest =>
    rw [Node.mentionsOf, List.mem_append]
    rcases h with _ | ⟨first, behind⟩
    rcases List.mem_append.1 hsite with hfirst | hbehind
    · exact .inl (Node.mentioned node first hfirst hm)
    · exact .inr (Node.mentionedOf rest behind hbehind hm)

end

/-! ## Rendering -/

/-- How far a rendering has come behind some sites. -/
def Progress.behind (p : Progress σ) (sites : List Site) (s' : σ) : Progress σ :=
  ⟨s', p.events ++ (Site.events sites).toArray, p.text ++ Site.text sites⟩

theorem Progress.behind_behind (p : Progress σ) (sites others : List Site) (s' s'' : σ) :
    (p.behind sites s').behind others s'' = p.behind (sites ++ others) s'' := by
  simp [Progress.behind, String.append_assoc]

/-- How far a rendering has come behind some sites and an action that fails. -/
def Progress.stopped (p : Progress σ) (before : List Site) (name argument : String) (s' : σ) :
    Progress σ :=
  { p.behind before s' with events := (p.behind before s').events.push (.act name argument) }

/-- Does a rendering go along a path, up to its end or up to an action that fails? -/
def Follows (funcs : Registry σ) (scope : Scope σ) (path : List Site → Prop) (p : Progress σ)
    (r : EStateM.Result Error (Progress σ) Unit) : Prop :=
  (∃ sites s', path sites ∧ Site.HappenAll funcs scope p.state sites s' ∧
    r = .ok () (p.behind sites s')) ∨
  ∃ before name argument value behind s' s'' e, path (before ++ .act name argument value :: behind) ∧
    Site.HappenAll funcs scope p.state before s' ∧ scope.act s' name argument = (s'', .error e) ∧
    r = .error e (p.stopped before name argument s'')

theorem Follows.single {path : List Site → Prop} {p : Progress σ} {site : Site} {s' : σ}
    (hpath : path [site]) (h : site.Happens funcs scope p.state s') :
    Follows funcs scope path p (.ok () (p.behind [site] s')) :=
  .inl ⟨[site], s', hpath, .single h, rfl⟩

theorem Follows.behind {path rest : List Site → Prop} {p : Progress σ} {first : List Site} {s' : σ}
    {r : EStateM.Result Error (Progress σ) Unit}
    (hfirst : Site.HappenAll funcs scope p.state first s')
    (hpath : ∀ sites, rest sites → path (first ++ sites))
    (h : Follows funcs scope rest (p.behind first s') r) : Follows funcs scope path p r := by
  rcases h with ⟨sites, next, hsites, hhappen, rfl⟩ |
    ⟨before, name, argument, value, behind, next, last, e, hsites, hhappen, hact, rfl⟩
  · exact .inl ⟨first ++ sites, next, hpath sites hsites, hfirst.append hhappen,
      congrArg _ (p.behind_behind first sites s' next)⟩
  · refine .inr ⟨first ++ before, name, argument, value, behind, next, last, e, ?_,
      hfirst.append hhappen, hact, ?_⟩
    · rw [List.append_assoc]
      exact hpath _ hsites
    · rw [Progress.stopped, Progress.stopped, p.behind_behind first before]

theorem get_eq (p : Progress σ) : (get : Rendering σ (Progress σ)) p = .ok p p := rfl

theorem emit_eq (text : String) (p : Progress σ) :
    emit text p = .ok () { p with text := p.text ++ text } := rfl

theorem record_eq (event : Event) (p : Progress σ) :
    record event p = .ok () { p with events := p.events.push event } := rfl

theorem callFunction_eq {name value : String} {p : Progress σ} {s' : σ}
    (h : funcs.call? name p.state = some (value, s')) :
    callFunction funcs name p = .ok value ⟨s', p.events.push (.call name), p.text⟩ := by
  simp only [callFunction, bind, EStateM.bind, get_eq, h]
  rfl

theorem runAction_ok {name argument value : String} {p : Progress σ} {s' : σ}
    (h : scope.act p.state name argument = (s', .ok value)) :
    runAction scope name argument p =
      .ok () ⟨s', p.events.push (.act name argument), p.text ++ value⟩ := by
  simp only [runAction, bind, EStateM.bind, record_eq, get_eq, h]
  rfl

theorem runAction_error {name argument : String} {p : Progress σ} {s' : σ} {e : Error}
    (h : scope.act p.state name argument = (s', .error e)) :
    runAction scope name argument p =
      .error e ⟨s', p.events.push (.act name argument), p.text⟩ := by
  simp only [runAction, bind, EStateM.bind, record_eq, get_eq, h]
  rfl

theorem exists_call {name : String} (h : funcs.contains name = true) (s : σ) :
    ∃ value s', funcs.call? name s = some (value, s') := by
  obtain ⟨f, hf⟩ := Option.isSome_iff_exists.1 h
  exact ⟨(f s).1, (f s).2, by rw [Registry.call?, hf]; rfl⟩

theorem Progress.behind_single (p : Progress σ) (site : Site) (s' : σ) :
    p.behind [site] s' =
      ⟨s', p.events ++ site.event?.toList.toArray, p.text ++ site.inserted⟩ := by
  simp only [Progress.behind, Site.text, Site.events, String.append_empty]
  cases h : site.event? <;> simp [List.filterMap, h]

theorem renderText_eq (content : String) (p : Progress σ) :
    renderNode funcs scope (.text content) p = .ok () (p.behind [.literal content] p.state) := by
  rw [renderNode, emit_eq, Progress.behind_single]
  simp [Site.event?, Site.inserted]

theorem renderFunction_eq {name value : String} {p : Progress σ} {s' : σ}
    (h : funcs.call? name p.state = some (value, s')) :
    renderNode funcs scope (.function name) p = .ok () (p.behind [.call name value] s') := by
  rw [renderNode, Progress.behind_single]
  simp [bind, EStateM.bind, callFunction_eq h, emit_eq, Site.event?, Site.inserted]

theorem renderField_eq {name value : String} {p : Progress σ}
    (h : scope.field? p.state name = some value) :
    renderNode funcs scope (.field name) p = .ok () (p.behind [.field name value] p.state) := by
  rw [renderNode, Progress.behind_single]
  simp [bind, EStateM.bind, get_eq, h, emit_eq, Site.event?, Site.inserted]

theorem renderAction_follows (name argument : String) (p : Progress σ) :
    Follows funcs scope (Node.Path (.action name argument)) p
      (renderNode funcs scope (.action name argument) p) := by
  rw [renderNode]
  rcases hact : scope.act p.state name argument with ⟨s', e | value⟩
  · rw [runAction_error hact]
    refine .inr ⟨[], name, argument, "", [], p.state, s', e, .action name argument "", .nil _,
      hact, ?_⟩
    simp [Progress.stopped, Progress.behind, Site.events, Site.text]
  · have hbehind := p.behind_single (.act name argument value) s'
    have hrender := runAction_ok hact
    simp only [Site.event?, Site.inserted, Option.toList_some] at hbehind
    rw [Array.push_eq_append, ← hbehind] at hrender
    rw [hrender]
    exact .single (.action name argument value) hact

theorem renderChoice_eq {condition value : String} (yes no : List Node) {p : Progress σ} {s' : σ}
    (h : funcs.call? condition p.state = some (value, s')) :
    renderNode funcs scope (.choice condition yes no) p =
      renderNodes funcs scope (if isTruthy value then yes else no)
        (p.behind [.test condition value] s') := by
  rw [renderNode, Progress.behind_single]
  simp only [bind, EStateM.bind, callFunction_eq h]
  split_ifs <;> simp [Site.event?, Site.inserted]

mutual

theorem renderNode_follows (node : Node) {p : Progress σ}
    (hknown : ∀ m ∈ node.mentions, m.isKnown funcs scope s = true)
    (hword : scope.KeepsWord funcs s) (hreach : Reaches funcs scope s p.state) :
    Follows funcs scope (Node.Path node) p (renderNode funcs scope node p) := by
  cases node with
  | text content =>
    rw [renderText_eq]
    exact .single (.text content) rfl
  | function name =>
    rw [Node.mentions, List.forall_mem_singleton] at hknown
    obtain ⟨value, s', hcall⟩ := exists_call hknown p.state
    rw [renderFunction_eq hcall]
    exact .single (.function name value) hcall
  | field name =>
    rw [Node.mentions, List.forall_mem_singleton] at hknown
    obtain ⟨value, hvalue⟩ := hword p.state hreach name hknown
    rw [renderField_eq hvalue]
    exact .single (.field name value) ⟨hvalue, rfl⟩
  | action name argument => exact renderAction_follows name argument p
  | choice condition yes no =>
    rw [Node.mentions, List.forall_mem_cons, List.forall_mem_append] at hknown
    obtain ⟨hcondition, hyes, hno⟩ := hknown
    obtain ⟨value, s', hcall⟩ := exists_call hcondition p.state
    have hfirst : Site.HappenAll funcs scope p.state [.test condition value] s' := .single hcall
    rw [renderChoice_eq yes no hcall]
    refine .behind hfirst (fun sites => Node.Path.choice condition value) ?_
    split_ifs
    · exact renderNodes_follows yes hyes hword (hreach.happenAll hfirst)
    · exact renderNodes_follows no hno hword (hreach.happenAll hfirst)

theorem renderNodes_follows (nodes : List Node) {p : Progress σ}
    (hknown : ∀ m ∈ Node.mentionsOf nodes, m.isKnown funcs scope s = true)
    (hword : scope.KeepsWord funcs s) (hreach : Reaches funcs scope s p.state) :
    Follows funcs scope (Node.PathOf nodes) p (renderNodes funcs scope nodes p) := by
  cases nodes with
  | nil => exact .inl ⟨[], p.state, .nil, .nil _, by simp [renderNodes, pure, EStateM.pure,
      Progress.behind, Site.events, Site.text]⟩
  | cons node rest =>
    rw [Node.mentionsOf, List.forall_mem_append] at hknown
    rw [renderNodes]
    simp only [bind, EStateM.bind]
    rcases renderNode_follows node hknown.1 hword hreach with
      ⟨sites, s', hsites, hhappen, hrender⟩ |
      ⟨before, name, argument, value, behind, next, last, e, hsites, hhappen, hact, hrender⟩
    · rw [hrender]
      exact .behind hhappen (fun others => Node.PathOf.cons hsites)
        (renderNodes_follows rest hknown.2 hword (hreach.happenAll hhappen))
    · rw [hrender]
      obtain ⟨others, hothers⟩ := Node.exists_pathOf rest
      refine .inr ⟨before, name, argument, value, behind ++ others, next, last, e, ?_, hhappen,
        hact, rfl⟩
      have hpath := Node.PathOf.cons hsites hothers
      rwa [List.append_assoc, List.cons_append] at hpath

end

theorem check_eq_verdict (t : Template) :
    t.check funcs scope s = Mention.verdict funcs scope s (Node.mentionsOf t.nodes) :=
  checkNodes_eq t.nodes

/-- What goes along a path up to its end is a rendering that completes, and what goes up to an
action that fails is one that stops. -/
theorem render_completes_or_stops {t : Template} (hcheck : t.check funcs scope s = .ok ())
    (hword : scope.KeepsWord funcs s) :
    Completes funcs scope t.nodes s (t.render funcs scope s) ∨
      Stops funcs scope t.nodes s (t.render funcs scope s) := by
  have hknown := (Mention.verdict_eq_ok_iff _).1 ((check_eq_verdict t).symm.trans hcheck)
  have hfollows :=
    renderNodes_follows (p := ⟨s, #[], ""⟩) t.nodes hknown hword (Reaches.refl s)
  rw [render, hcheck]
  rcases hfollows with ⟨sites, s', hsites, hhappen, hrender⟩ |
    ⟨before, name, argument, value, behind, s', s'', e, hsites, hhappen, hact, hrender⟩
  · refine .inl ⟨sites, s', hsites, hhappen, ?_⟩
    rw [hrender]
    simp [Progress.behind]
  · refine .inr ⟨before, name, argument, value, behind, s', s'', e, hsites, hhappen, hact, ?_⟩
    rw [hrender]
    simp [Progress.stopped, Progress.behind]

theorem render_reaches (t : Template) (hword : scope.KeepsWord funcs s) :
    Reaches funcs scope s (t.render funcs scope s).state := by
  cases hcheck : t.check funcs scope s with
  | error e =>
    rw [render, hcheck]
    exact .refl s
  | ok _ =>
    rcases render_completes_or_stops hcheck hword with ⟨sites, s', -, hhappen, houtcome⟩ |
      ⟨before, name, argument, value, behind, s', s'', e, -, hhappen, hact, houtcome⟩
    · rw [houtcome]
      exact (Reaches.refl s).happenAll hhappen
    · rw [houtcome]
      exact ((Reaches.refl s).happenAll hhappen).act hact

/-- Rendering checks all names before it does anything. A check succeeds just if every name of
every branch is known, and is otherwise about the first one that is not; then the rendering fails
in the same way and nothing has happened. Behind a check that succeeds, while the fields that a
scope says it has do have values, a rendering does just what is along one path through the
template: up to its end, with the values inserted as they are, or up to the first action that
fails, with the error of that action. It comes to the end if no action along a path fails. -/
theorem render_outcome (t : Template) (funcs : Registry σ) (scope : Scope σ) (s : σ) :
    (t.check funcs scope s = .ok () ↔
      ∀ m ∈ Node.mentionsOf t.nodes, m.isKnown funcs scope s = true) ∧
    (∀ before m behind, Node.mentionsOf t.nodes = before ++ m :: behind →
      (∀ other ∈ before, other.isKnown funcs scope s = true) →
      m.isKnown funcs scope s = false → t.check funcs scope s = .error m.error) ∧
    (∀ e, t.check funcs scope s = .error e → t.render funcs scope s = ⟨.error e, s, []⟩) ∧
    (t.check funcs scope s = .ok () → scope.KeepsWord funcs s →
      (Completes funcs scope t.nodes s (t.render funcs scope s) ∨
        Stops funcs scope t.nodes s (t.render funcs scope s)) ∧
      ((∀ before name argument value behind s' s'' e,
          Node.PathOf t.nodes (before ++ .act name argument value :: behind) →
          Site.HappenAll funcs scope s before s' →
          scope.act s' name argument ≠ (s'', .error e)) →
        Completes funcs scope t.nodes s (t.render funcs scope s))) := by
  refine ⟨?_, ?_, ?_, ?_⟩
  · rw [check_eq_verdict, Mention.verdict_eq_ok_iff]
  · intro before m behind hmentions hbefore hm
    rw [check_eq_verdict, hmentions, Mention.verdict_unknown behind hbefore hm]
  · intro e hcheck
    rw [render, hcheck]
  · intro hcheck hword
    refine ⟨render_completes_or_stops hcheck hword, fun hacts => ?_⟩
    refine (render_completes_or_stops hcheck hword).resolve_right ?_
    rintro ⟨before, name, argument, value, behind, s', s'', e, hpath, hhappen, hact, -⟩
    exact hacts before name argument value behind s' s'' e hpath hhappen hact

/-- A template with a choice, whose condition has a new value at every call, and an action that
fails between two that would not: a rendering stops in that action. -/
theorem render_outcome_failing_action :
    let counter : Registry Nat := ⟨[("n", fun k => (toString k, k + 1))]⟩
    let scope : Scope Nat :=
      ⟨fun _ _ => false, fun _ _ => none, fun _ _ => true, fun k name argument =>
        (k + 10, if name = "say" then .ok argument else .error (.failedAction name argument))⟩
    let t : Template :=
      ⟨"", [.choice "n" [.function "n", .action "say" "a"] [.text "no"], .action "fail" "b",
        .action "say" "c"]⟩
    scope.KeepsWord counter 0 ∧ Stops counter scope t.nodes 0 (t.render counter scope 0) := by
  intro counter scope t
  have hword : scope.KeepsWord counter 0 := fun _ _ _ h => absurd h Bool.false_ne_true
  refine ⟨hword, ?_⟩
  have hrender := (render_outcome t counter scope 0).2.2.2 (by rfl) hword
  refine hrender.1.resolve_left ?_
  rintro ⟨sites, s', -, -, hcompletes⟩
  have hfails : (t.render counter scope 0).result = .error (.failedAction "fail" "b") := by rfl
  rw [hcompletes] at hfails
  cases hfails

end

end DaemonDialogue.Template
