import DaemonDialogue.Json.Basic

/-!
# Written values

A value as it is written in a text. Something may be written by all rules and still have
no meaning: half of a surrogate pair, a number beyond all, or what is nested too deep. It
may be passed over, but a value that contains it stands for no value.
-/

namespace DaemonDialogue.Json

/-- A value as it is written; the name of a member may be without meaning, too. -/
inductive Draft
  | null
  | bool (value : Bool)
  | integer (value : Int)
  | real (value : Binary64)
  | string (text : String)
  | array (items : List Draft)
  | object (members : List (Option String × Draft))
  | senseless
  deriving Repr, Inhabited

namespace Draft

mutual

def value? : Draft → Option Json
  | .null => some .null
  | .bool b => some (.bool b)
  | .integer i => some (.integer i)
  | .real x => some (.real x)
  | .string s => some (.string s)
  | .array items => (itemValues? items).map .array
  | .object members => (memberValues? members).map .object
  | .senseless => none

def itemValues? : List Draft → Option (List Json)
  | [] => some []
  | item :: rest =>
    match item.value?, itemValues? rest with
    | some v, some vs => some (v :: vs)
    | _, _ => none

def memberValues? : List (Option String × Draft) → Option (List (String × Json))
  | [] => some []
  | (name, item) :: rest =>
    match name, item.value?, memberValues? rest with
    | some name, some v, some vs => some ((name, v) :: vs)
    | _, _, _ => none

end

def makesSense (d : Draft) : Bool := d.value?.isSome

end Draft
end DaemonDialogue.Json
