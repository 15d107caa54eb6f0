import DaemonDialogue.Text.Numeral

/-!
# Switches

The options of a command line: flags, and options that take a value of some kind.
-/

namespace DaemonDialogue.CommandLine

/-- The values that an option takes. -/
inductive Kind
  | text
  | path
  | number
  | port
  deriving DecidableEq, Repr

/-- What an option does: it is set, it takes a value, or it ends the reading at once. -/
inductive Effect
  | flag
  | value (kind : Kind)
  | version
  | help
  deriving DecidableEq, Repr

structure Switch where
  name : String
  short : Option Char := none
  effect : Effect := .flag
  deriving DecidableEq, Repr

namespace Switch

/-- The name of the value of an option: letters in upper case, dots as underscores. -/
def valueName (s : Switch) : String :=
  String.ofList (s.name.toList.map fun c => if c == '.' then '_' else c.toUpper)

def render (s : Switch) : String :=
  match s.effect with
  | .value _ => s!"--{s.name} <{s.valueName}>"
  | _ => "--" ++ s.name

end Switch

inductive Value
  | present
  | text (content : String)
  | number (n : Nat)
  deriving DecidableEq, Repr

/-- Why a text is no value of an option. -/
inductive ValueFault
  | numeral (fault : Numeral.Fault)
  | tooSmall
  | outside (written : String)
  deriving DecidableEq, Repr

def ValueFault.message : ValueFault → String
  | .numeral fault => fault.message
  | .tooSmall => "number too small to fit in target type"
  | .outside written => s!"{written} is not in 0..={Numeral.maxU16}"

/-- A port is first read as an integer, then it has to be in its range. -/
def readPort (text : String) : Except ValueFault Nat :=
  match text.toList with
  | '-' :: digits =>
    if digits.isEmpty || digits.head? == some '+' then .error (.numeral .invalidDigit)
    else
      match Numeral.read 0x8000000000000000 (String.ofList digits) with
      | .error .tooLarge => .error .tooSmall
      | .error fault => .error (.numeral fault)
      | .ok 0 => .ok 0
      | .ok n => .error (.outside s!"-{n}")
  | _ =>
    match Numeral.read 0x7FFFFFFFFFFFFFFF text with
    | .error fault => .error (.numeral fault)
    | .ok n => if n ≤ Numeral.maxU16 then .ok n else .error (.outside (toString n))

end DaemonDialogue.CommandLine
