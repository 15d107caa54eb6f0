import DaemonDialogue.Template.Registry

/-!
# Rendering templates

Every name in every branch is checked before a function is called or an action
run. What happens while rendering is recorded in order, so a rendering that fails
in an action shows what came before it.
-/

namespace DaemonDialogue.Template

/-- What fields and actions mean while the state of a rendering is of type `σ`. -/
structure Scope (σ : Type) where
  hasField : σ → String → Bool
  field? : σ → String → Option String
  hasAction : σ → String → Bool
  act : σ → String → String → σ × Except Error String

def Scope.empty {σ : Type} : Scope σ where
  hasField _ _ := false
  field? _ _ := none
  hasAction _ _ := false
  act s name _ := (s, .error (.unknownAction name))

/-- Something that happens while a template is rendered. -/
inductive Event
  | call (name : String)
  | act (name argument : String)
  deriving DecidableEq, Repr

/-- How far a rendering has come. -/
structure Progress (σ : Type) where
  state : σ
  events : Array Event
  text : String

mutual

def checkNode {σ : Type} (funcs : Registry σ) (scope : Scope σ) (s : σ) : Node → Except Error Unit
  | .text _ => .ok ()
  | .function name => if funcs.contains name then .ok () else .error (.unresolved name)
  | .field name => if scope.hasField s name then .ok () else .error (.unknownField name)
  | .action name _ => if scope.hasAction s name then .ok () else .error (.unknownAction name)
  | .choice condition yes no =>
    if funcs.contains condition then
      match checkNodes funcs scope s yes with
      | .error e => .error e
      | .ok () => checkNodes funcs scope s no
    else .error (.unresolved condition)

def checkNodes {σ : Type} (funcs : Registry σ) (scope : Scope σ) (s : σ) :
    List Node → Except Error Unit
  | [] => .ok ()
  | node :: rest =>
    match checkNode funcs scope s node with
    | .error e => .error e
    | .ok () => checkNodes funcs scope s rest

end

/-- Does a value take the first branch of a choice? -/
def isTruthy (value : String) : Bool :=
  !value.isEmpty && value != "false"

/-- A rendering that adds text and events as it goes. -/
abbrev Rendering (σ α : Type) := EStateM Error (Progress σ) α

def emit {σ : Type} (text : String) : Rendering σ Unit :=
  modify fun p => { p with text := p.text ++ text }

def record {σ : Type} (event : Event) : Rendering σ Unit :=
  modify fun p => { p with events := p.events.push event }

def callFunction {σ : Type} (funcs : Registry σ) (name : String) :
    Rendering σ String := do
  let p ← get
  match funcs.call? name p.state with
  | none => throw (.unresolved name)
  | some (value, state) =>
    set { p with state := state }
    record (.call name)
    return value

def runAction {σ : Type} (scope : Scope σ) (name argument : String) : Rendering σ Unit := do
  record (.act name argument)
  let p ← get
  let (state, result) := scope.act p.state name argument
  set { p with state := state }
  match result with
  | .ok text => emit text
  | .error e => throw e

mutual

def renderNode {σ : Type} (funcs : Registry σ) (scope : Scope σ) : Node → Rendering σ Unit
  | .text content => emit content
  | .function name => do emit (← callFunction funcs name)
  | .field name => do
    match scope.field? (← get).state name with
    | some value => emit value
    | none => throw (.unknownField name)
  | .action name argument => runAction scope name argument
  | .choice condition yes no => do
    let value ← callFunction funcs condition
    if isTruthy value then renderNodes funcs scope yes else renderNodes funcs scope no

def renderNodes {σ : Type} (funcs : Registry σ) (scope : Scope σ) : List Node → Rendering σ Unit
  | [] => pure ()
  | node :: rest => do
    renderNode funcs scope node
    renderNodes funcs scope rest

end

def check {σ : Type} (t : Template) (funcs : Registry σ) (scope : Scope σ) (s : σ) :
    Except Error Unit :=
  checkNodes funcs scope s t.nodes

/-- What a rendering leaves: the text or an error, the state and what happened. -/
structure Outcome (σ : Type) where
  result : Except Error String
  state : σ
  events : List Event

def render {σ : Type} (t : Template) (funcs : Registry σ) (scope : Scope σ) (s : σ) : Outcome σ :=
  match t.check funcs scope s with
  | .error e => ⟨.error e, s, []⟩
  | .ok () =>
    match renderNodes funcs scope t.nodes ⟨s, #[], ""⟩ with
    | .ok _ p => ⟨.ok p.text, p.state, p.events.toList⟩
    | .error e p => ⟨.error e, p.state, p.events.toList⟩

def renderFunctions {σ : Type} (t : Template) (funcs : Registry σ) (s : σ) : Outcome σ :=
  t.render funcs Scope.empty s

end DaemonDialogue.Template
