import DaemonDialogue.File.Path

/-!
# Command lines of daemons

A daemon is started with a program, a name and arguments. A flag has a value if an
argument is the flag, and then the value is the next one, or if an argument is the
flag with the value behind an equals sign; the first such argument decides.
-/

namespace DaemonDialogue

structure Command where
  program : String
  name : String
  arguments : List String := []
  environment : List (String × String) := []
  workingDir : Option String := none
  scratchDatadir : Bool := true
  deriving DecidableEq, Repr

namespace Command

/-- The flags of a daemon that needs little: no peers, no discovery and a small cache. -/
def minimalFlags : List String :=
  ["--ropsten", "--networkid", "1337", "--syncmode=full", "--port", "0", "--nat", "none",
    "--nodiscover", "--maxpeers", "0", "--cache", "64"]

def ofProgram (program : String) : Command :=
  { program, name := (Path.fileStem? program).getD "daemon" }

/-- A command with the flags of a daemon that needs little. -/
def minimal (program : String) : Command :=
  { ofProgram program with arguments := minimalFlags }

def flagValue? (flag : String) : List String → Option String
  | [] => none
  | argument :: rest =>
    if argument = flag then rest.head?
    else match Cut.behind? (flag.toList ++ ['=']) argument.toList with
      | some value => some (String.ofList value)
      | none => flagValue? flag rest

end Command
end DaemonDialogue
