import DaemonDialogue.Text.Ascii

/-!
# Path components from names

A name becomes one component of a path: letters, digits, hyphens, underscores and
dots stay, everything else becomes an underscore.
-/

namespace DaemonDialogue.Component

def isPlain (c : Char) : Bool :=
  Ascii.isAlphanumeric c || c == '-' || c == '_' || c == '.'

/-- The component of a name; a name without characters is called `test`. -/
def ofName (name : String) : String :=
  if name.isEmpty then "test"
  else String.ofList (name.toList.map fun c => if isPlain c then c else '_')

end DaemonDialogue.Component
