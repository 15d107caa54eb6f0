import DaemonDialogue.Script.Text

/-!
# Variables of shells

A variable may have a value, be seen by the programs that a shell starts, or be closed to
changes.
-/

namespace DaemonDialogue.Script

structure Variable where
  value : Option Text := none
  exported : Bool := false
  readOnly : Bool := false
  deriving DecidableEq, Repr, Inhabited

structure Variables where
  entries : List (Text × Variable) := []
  deriving Repr, Inhabited

namespace Variables

def find? (vs : Variables) (name : Text) : Option Variable := vs.entries.lookup name

def value? (vs : Variables) (name : Text) : Option Text := (vs.find? name).bind (·.value)

def isReadOnly (vs : Variables) (name : Text) : Bool := ((vs.find? name).map (·.readOnly)).getD false

def put (vs : Variables) (name : Text) : Option Variable → Variables
  | some v =>
    if vs.entries.any fun e => e.1 == name then
      ⟨vs.entries.map fun e => if e.1 == name then (name, v) else e⟩
    else ⟨vs.entries ++ [(name, v)]⟩
  | none => ⟨vs.entries.filter fun e => e.1 != name⟩

def assign (vs : Variables) (name value : Text) : Variables :=
  vs.put name (some { (vs.find? name).getD {} with value := some value })

def export_ (vs : Variables) (name : Text) : Variables :=
  vs.put name (some { (vs.find? name).getD {} with exported := true })

def close (vs : Variables) (name : Text) : Variables :=
  vs.put name (some { (vs.find? name).getD {} with readOnly := true })

def heaps : Nat := 39

def exported (vs : Variables) : List (Text × Text) :=
  vs.entries.filterMap fun (name, v) => if v.exported then v.value.map fun t => (name, t) else none

/-- The variables that a new program sees, heap by heap. -/
def environment (vs : Variables) : List (Text × Text) :=
  vs.exported.mergeSort fun a b => Text.heap heaps a.1 ≤ Text.heap heaps b.1

def sorted (vs : Variables) : List (Text × Variable) :=
  vs.entries.mergeSort fun a b => Text.precedes a.1 b.1

end Variables
end DaemonDialogue.Script
