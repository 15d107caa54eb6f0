import DaemonDialogue.Template.Basic

/-!
# Registered functions

The functions that placeholders stand for. A function is called anew for every placeholder, in
the state of that moment, so that its value can change from call to call.
-/

namespace DaemonDialogue.Template

/-- A function of a template: its value in a state, and the state behind the call. -/
abbrev Function (σ : Type) := σ → String × σ

/-- Functions by their names; every name occurs once. -/
structure Registry (σ : Type) where
  entries : List (String × Function σ) := []

namespace Registry

variable {σ : Type}

def function? (r : Registry σ) (name : String) : Option (Function σ) :=
  r.entries.lookup name

def call? (r : Registry σ) (name : String) (s : σ) : Option (String × σ) :=
  (r.function? name).map fun f => f s

def contains (r : Registry σ) (name : String) : Bool :=
  (r.function? name).isSome

def set (r : Registry σ) (name : String) (f : Function σ) : Registry σ :=
  ⟨(r.entries.filter fun e => e.1 != name) ++ [(name, f)]⟩

/-- Registers a function that always has the same value. -/
def setValue (r : Registry σ) (name value : String) : Registry σ :=
  r.set name fun s => (value, s)

def remove (r : Registry σ) (name : String) : Registry σ :=
  ⟨r.entries.filter fun e => e.1 != name⟩

def names (r : Registry σ) : List String :=
  r.entries.foldl (fun names e => insertName e.1 names) []

def ofList (values : List (String × String)) : Registry σ :=
  values.foldl (fun r e => r.setValue e.1 e.2) {}

def describe (r : Registry σ) : String :=
  "TemplateFuncs \x7b names: [" ++ ", ".intercalate (r.names.map quoted) ++ "] \x7d"

end Registry
end DaemonDialogue.Template
