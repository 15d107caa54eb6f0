import DaemonDialogue.CommandLine.Switch
import DaemonDialogue.Text.Terminal

/-!
# Faults of command lines

Why the arguments of a program cannot be taken.
-/

namespace DaemonDialogue.CommandLine

/-- Why the arguments of a program cannot be taken. -/
inductive Fault
  | unexpected (argument : String)
  | unknownCommand (word : String)
  | repeated (option : Switch)
  | conflict (option : Switch) (others : List Switch)
  | noValue (option : Switch)
  | valueOfFlag (value : String) (option : Switch)
  | invalid (value : String) (option : Switch) (fault : ValueFault)
  deriving DecidableEq, Repr

def otherOptions : List Switch → String
  | [other] => s!" '{other.render}'"
  | others => ":" ++ String.join (others.map fun s => "\n  " ++ s.render)

/-- A word of the command line between quotes, without control sequences. -/
def cited (word : String) : String :=
  s!"'{Terminal.plain word}'"

def Fault.message : Fault → String
  | .unexpected argument => s!"unexpected argument {cited argument} found"
  | .unknownCommand word => s!"unrecognized subcommand {cited word}"
  | .repeated option => s!"the argument '{option.render}' cannot be used multiple times"
  | .conflict option others =>
    s!"the argument '{option.render}' cannot be used with{otherOptions others}"
  | .noValue option => s!"a value is required for '{option.render}' but none was supplied"
  | .valueOfFlag value option =>
    s!"unexpected value {cited value} for '{option.render}' found; no more were expected"
  | .invalid value option fault =>
    s!"invalid value {cited value} for '{option.render}': {fault.message}"

/-- Why the reading of a command line stops before its end. -/
inductive Stop
  | fault (fault : Fault)
  | version
  | help
  deriving DecidableEq, Repr

end DaemonDialogue.CommandLine
