import DaemonDialogue.Script.Shell.Job
import DaemonDialogue.Script.Shell.Setting
import DaemonDialogue.Script.Shell.Variable
import DaemonDialogue.Script.Syntax

/-!
# Shells

What a shell knows while it runs a script: its variables, functions and aliases, what it
does on signals, and how the last command ended.
-/

namespace DaemonDialogue.Script

/-- A function: its body, and the line on which it was defined. -/
structure Function where
  line : Nat
  body : Command
  deriving Inhabited

/-- How far a script has got with the options in its arguments: the next argument, counted from
one, and the place within it. -/
structure OptionCursor where
  index : Nat := 1
  offset : Option Nat := none
  deriving DecidableEq, Repr, Inhabited

structure Shell where
  name : Text := []
  arguments : List Text := []
  cursor : OptionCursor := {}
  bindings : Variables := {}
  functions : List (Text × Function) := []
  aliases : List (Text × Text) := []
  documents : List (Nat × Word) := []
  nextDocument : Nat := 0
  settings : Settings := {}
  traps : List (Nat × Text) := []
  ignored : List Nat := []
  jobs : List Job := []
  background : Option Nat := none
  root : Nat := 0
  status : Nat := 0
  outputStatus : Nat := 0
  line : Nat := 0
  command : Option Text := none
  readLines : Nat := 1
  loops : Nat := 0
  depth : Nat := 0
  known : List (Text × Text) := []
  directory : Text := []
  mask : Nat := 18
  deriving Inhabited

namespace Shell

def usualSeparators : Text := [' ', '\t', '\n']

def separators (s : Shell) : Text :=
  (s.bindings.value? "IFS".toList).getD usualSeparators

def hasSeparators (s : Shell) : Bool :=
  (s.bindings.value? "IFS".toList).isSome

def has (s : Shell) (x : Setting) : Bool := s.settings.has x

def path (s : Shell) : Text := (s.bindings.value? "PATH".toList).getD []

/-- The variables that no `unset` makes disappear. -/
def fixedNames : List Text :=
  ["ATTY", "IFS", "MAIL", "MAILPATH", "PATH", "PS1", "PS2", "PS4", "OPTIND", "LINENO", "TERM",
    "HISTSIZE"].map String.toList

/-- The shell after a variable has changed on whose value something else hangs. -/
def touched (s : Shell) (name : Text) : Shell :=
  if name == "PATH".toList then { s with known := [] }
  else if name == "OPTIND".toList then
    let digits := ((s.bindings.value? name).getD []).takeWhile Ascii.isDigit
    { s with cursor := { index := max 1 (Ascii.digitsValue digits) } }
  else s

/-- Why a variable cannot be given a value. -/
inductive Refusal
  | badName (name : Text)
  | readOnly (name : Text)
  deriving DecidableEq, Repr, Inhabited

def Refusal.message : Refusal → Text
  | .badName name => name ++ ": bad variable name".toList
  | .readOnly name => name ++ ": is read only".toList

def assign (s : Shell) (name value : Text) : Except Refusal Shell :=
  if s.bindings.isReadOnly name then .error (.readOnly name)
  else
    let bindings := s.bindings.assign name value
    let bindings := if s.has .allexport then bindings.export_ name else bindings
    .ok (({ s with bindings } : Shell).touched name)

def set (s : Shell) (name value : Text) : Except Refusal Shell :=
  if Text.isName name then s.assign name value
  else .error (.badName name)

/-- Takes the value of a variable away. -/
def unset (s : Shell) (name : Text) : Except Refusal Shell :=
  if !Text.isName name then .error (.badName name)
  else if s.bindings.isReadOnly name then .error (.readOnly name)
  else
    let left := match s.bindings.find? name with
      | some v => if fixedNames.contains name then some { v with value := none } else none
      | none => none
    .ok (({ s with bindings := s.bindings.put name left } : Shell).touched name)

def trap? (s : Shell) (signal : Nat) : Option Text := s.traps.lookup signal

/-- Does a shell do something of its own at its end or on a signal? -/
def hasTraps (s : Shell) : Bool := s.traps.any fun t => !t.2.isEmpty

/-- The shell with something else to do on a signal, or nothing. -/
def putTrap (s : Shell) (signal : Nat) (action : Option Text) : Shell :=
  let others := s.traps.filter fun t => t.1 != signal
  { s with traps := others ++ action.toList.map fun a => (signal, a) }

def complaint (s : Shell) (text : Text) : Text :=
  let command := match s.command with
    | some c => c ++ [':', ' ']
    | none => []
  s.name ++ [':', ' '] ++ Text.ofNat s.line ++ [':', ' '] ++ command ++ text ++ ['\n']

end Shell
end DaemonDialogue.Script
