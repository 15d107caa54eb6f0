import DaemonDialogue.File.Path
import DaemonDialogue.Text.Blank
import DaemonDialogue.Text.Case

/-!
# Where programs are

A program is looked for under the variables that may name it, and otherwise in the
directory that builds put programs into.
-/

namespace DaemonDialogue.Program

/-- The kind of build whose programs are taken. -/
def profile : String := "release"

def exactVariable (name : String) : String := "CARGO_BIN_EXE_" ++ name

/-- The variable of a program in upper case, with underscores for hyphens. -/
def upperVariable (name : String) : String :=
  "CMDTEST_BIN_" ++
    String.ofList ((upperCase name).toList.map fun c => if c == '-' then '_' else c)

/-- The value of a variable that is set and not blank. -/
def named? (lookup : String → Option String) (name : String) : Option String :=
  match lookup name with
  | none => none
  | some value => if (trim value).isEmpty then none else some (trim value)

def resolve (lookup : String → Option String) (buildDir name : String) : String :=
  match named? lookup (exactVariable name) with
  | some path => path
  | none =>
    match named? lookup (upperVariable name) with
    | some path => path
    | none => Path.join (Path.join buildDir profile) name

end DaemonDialogue.Program
