import DaemonDialogue.CommandLine.Fault
import DaemonDialogue.Text.Cut

/-!
# Reading command lines

Arguments are read from the left. A value is judged when the next option begins or the
line ends, so a fault that is found while an option still waits comes first. A command
takes over the rest of the line with options of its own; only after it the options before
it are judged, and last of all those that exclude each other.
-/

namespace DaemonDialogue.CommandLine

/-- The options and words that a command takes, and the commands below it. -/
structure Grammar where
  name : String
  switches : List Switch
  words : Nat := 0
  commands : List Grammar := []
  deriving Repr

structure Given where
  values : List (String × Value) := []
  words : List String := []
  command : Option (String × List (String × Value) × List String) := none
  deriving Repr

/-- A reading in progress: what was given, the option that waits to be judged with its value if
there is one, and whether only words may follow. -/
structure State where
  given : Given := {}
  waiting : Option (Switch × Option String) := none
  wordsOnly : Bool := false

abbrev Reading (α : Type) := Except Stop α

def refuse {α : Type} (f : Fault) : Reading α := .error (.fault f)

def Value.read (option : Switch) (kind : Kind) (written : String) : Reading Value :=
  match kind with
  | .text => .ok (.text written)
  | .path => if written.isEmpty then refuse (.noValue option) else .ok (.text written)
  | .number =>
    match Numeral.read Numeral.maxU64 written with
    | .ok n => .ok (.number n)
    | .error fault => refuse (.invalid written option (.numeral fault))
  | .port =>
    match readPort written with
    | .ok n => .ok (.number n)
    | .error fault => refuse (.invalid written option fault)

namespace State

def take (s : State) (option : Switch) (value : Reading Value) : Reading State :=
  if s.given.values.any fun v => v.1 == option.name then refuse (.repeated option)
  else do
    let value ← value
    return { s with given := { s.given with values := s.given.values ++ [(option.name, value)] } }

def judge (s : State) (option : Switch) (written : Option String) : Reading State :=
  match option.effect, written with
  | .flag, _ => s.take option (.ok .present)
  | .value _, none => refuse (.noValue option)
  | .value kind, some written => s.take option (Value.read option kind written)
  | .version, _ => .error .version
  | .help, _ => .error .help

/-- Judges the option that waits. -/
def settle (s : State) : Reading State :=
  match s.waiting with
  | none => .ok s
  | some (option, written) => { s with waiting := none }.judge option written

def wantsValue (s : State) : Bool :=
  match s.waiting with
  | some (_, none) => true
  | _ => false

def begin (s : State) (option : Switch) (attached : Option String) : Reading State :=
  match option.effect, attached with
  | .value _, none => do return { ← s.settle with waiting := some (option, none) }
  | .value _, some written => do (← s.settle).judge option (some written)
  | _, some written => refuse (.valueOfFlag written option)
  | _, none => do (← s.settle).judge option none

end State

def Grammar.named? (c : Grammar) (name : String) : Option Switch :=
  c.switches.find? fun s => s.name == name

def Grammar.lettered? (c : Grammar) (letter : Char) : Option Switch :=
  c.switches.find? fun s => s.short == some letter

def Grammar.readLong (c : Grammar) (s : State) (text : List Char) : Reading State :=
  let name := String.ofList (text.takeWhile (· != '='))
  let attached := (Cut.atFirst? '=' text).map fun (_, value) => String.ofList value
  match c.named? name with
  | some option => s.begin option attached
  | none => refuse (.unexpected ("--" ++ name))

def Grammar.readLetters (c : Grammar) (s : State) : List Char → Reading State
  | [] => .ok s
  | letter :: rest =>
    match c.lettered? letter with
    | some option => do c.readLetters (← s.begin option none) rest
    | none => refuse (.unexpected (String.ofList ['-', letter]))

/-- Reads an argument that is neither an option nor its value. -/
def Grammar.readWord (c : Grammar) (s : State) (word : String) : Reading State :=
  if s.given.words.length < c.words then do
    let s ← s.settle
    return { s with given := { s.given with words := s.given.words ++ [word] } }
  else if c.commands.isEmpty || (s.wordsOnly && c.commands.any fun d => d.name == word) then
    refuse (.unexpected word)
  else refuse (.unknownCommand word)

def Grammar.readArgument (c : Grammar) (s : State) (argument : String) : Reading State :=
  if s.wordsOnly then c.readWord s argument
  else
    match argument.toList with
    | ['-', '-'] => .ok { s with wordsOnly := true }
    | '-' :: '-' :: text => c.readLong s text
    | '-' :: letter :: letters => c.readLetters s (letter :: letters)
    | _ =>
      match s.waiting with
      | some (option, none) => .ok { s with waiting := some (option, some argument) }
      | _ => c.readWord s argument

def Grammar.readAll (c : Grammar) (s : State) : List String → Reading State
  | [] => s.settle
  | argument :: rest => do c.readAll (← c.readArgument s argument) rest

/-- The words of a request for help have to name commands. -/
def Grammar.readHelp (c : Grammar) (words : List String) : Stop :=
  match words.find? fun w => !(c.commands.any fun d => d.name == w) with
  | some word => .fault (.unknownCommand word)
  | none => .help

def Grammar.readFrom (c : Grammar) (s : State) : List String → Reading State
  | [] => s.settle
  | argument :: rest =>
    if s.wordsOnly || s.wantsValue then do c.readFrom (← c.readArgument s argument) rest
    else
      match c.commands.find? fun d => d.name == argument with
      | some below =>
        if below.name == "help" then .error (c.readHelp rest)
        else do
          let inner ← below.readAll {} rest
          let s ← s.settle
          return { s with given := { s.given with
            command := some (below.name, inner.given.values, inner.given.words) } }
      | none => do c.readFrom (← c.readArgument s argument) rest

/-- The options of a group of which only one may be given, in the order of the line. -/
def Grammar.together (c : Grammar) (group : List String) (given : Given) : List Switch :=
  given.values.filterMap fun (name, _) => if group.contains name then c.named? name else none

/-- What is given to a program whose options of a group exclude each other. -/
def Grammar.read (c : Grammar) (group : List String) (arguments : List String) : Reading Given := do
  let s ← c.readFrom {} arguments
  match c.together group s.given with
  | first :: other :: others => refuse (.conflict first (other :: others))
  | _ => return s.given

end DaemonDialogue.CommandLine
