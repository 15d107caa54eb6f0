import DaemonDialogue.Script.Number
import DaemonDialogue.Text.Cut

/-!
# Options of programs

Programs take options by letter and by name, before and between their operands. A name may
be cut short as long as only one option begins that way.
-/

namespace DaemonDialogue.Script.Program

/-- The options that a program knows: letters with whether they take an argument, and names with
the letters that they stand for. -/
structure Grammar where
  letters : List (Char × Bool) := []
  names : List (String × Char) := []
  stopsAtOperand : Bool := false

/-- What was found: options with their arguments, and operands. -/
structure Parsed where
  options : List (Char × Text) := []
  operands : List Text := []
  deriving Repr, Inhabited

namespace Parsed

def has (p : Parsed) (c : Char) : Bool := p.options.any fun o => o.1 == c

/-- The last argument of an option. -/
def argument? (p : Parsed) (c : Char) : Option Text :=
  (p.options.filter fun o => o.1 == c).getLast?.map (·.2)

/-- Which of some options comes last. -/
def last? (p : Parsed) (cs : List Char) : Option Char :=
  (p.options.filter fun o => cs.contains o.1).getLast?.map (·.1)

end Parsed

namespace Grammar

def ofLetters (plain arguments : String) : List (Char × Bool) :=
  plain.toList.map (fun c => (c, false)) ++ arguments.toList.map fun c => (c, true)

def quote (t : Text) : Text := '\'' :: t ++ ['\'']

def named (g : Grammar) (name : Text) : Except Text Char :=
  let written : Text := '-' :: '-' :: name
  match g.names.find? fun n => n.1.toList == name with
  | some n => .ok n.2
  | none =>
    match g.names.filter fun n => name.isPrefixOf n.1.toList with
    | [] => .error ("unrecognized option ".toList ++ quote written)
    | n :: rest =>
      if rest.all fun m => m.2 == n.2 then .ok n.2
      else
        .error ("option ".toList ++ quote written ++ " is ambiguous; possibilities:".toList ++
          (n :: rest).flatMap fun m => ' ' :: quote ('-' :: '-' :: m.1.toList))

/-- Reads the letters of one argument, given the arguments behind it. -/
def readLetters (g : Grammar) : Text → List Text → Except Text (List (Char × Text) × List Text)
  | [], rest => .ok ([], rest)
  | c :: letters, rest =>
    match g.letters.lookup c with
    | none => .error ("invalid option -- ".toList ++ quote [c])
    | some false => do
      let (found, rest) ← readLetters g letters rest
      return ((c, []) :: found, rest)
    | some true =>
      match letters, rest with
      | [], [] => .error ("option requires an argument -- ".toList ++ quote [c])
      | [], argument :: rest => .ok ([(c, argument)], rest)
      | letters, rest => .ok ([(c, letters)], rest)

/-- Reads arguments; `fuel` bounds their number. -/
def parseWithin (g : Grammar) : Nat → Parsed → List Text → Except Text Parsed
  | 0, p, _ => .ok p
  | _, p, [] => .ok p
  | fuel + 1, p, argument :: rest =>
    match argument with
    | ['-', '-'] => .ok { p with operands := p.operands ++ rest }
    | '-' :: '-' :: written => do
      let name := written.takeWhile (· != '=')
      let given := (Cut.atFirst? '=' written).map (·.2)
      let c ← g.named name
      let full := ((g.names.find? fun n => n.2 == c && name.isPrefixOf n.1.toList).map (·.1.toList)).getD name
      match g.letters.lookup c, given, rest with
      | some true, some value, rest => parseWithin g fuel { p with options := p.options ++ [(c, value)] } rest
      | some true, none, value :: rest =>
        parseWithin g fuel { p with options := p.options ++ [(c, value)] } rest
      | some true, none, [] =>
        .error ("option ".toList ++ quote ('-' :: '-' :: full) ++ " requires an argument".toList)
      | _, some _, _ =>
        .error ("option ".toList ++ quote ('-' :: '-' :: full) ++ " doesn't allow an argument".toList)
      | _, none, rest => parseWithin g fuel { p with options := p.options ++ [(c, [])] } rest
    | '-' :: c :: letters => do
      let (found, rest) ← g.readLetters (c :: letters) rest
      parseWithin g fuel { p with options := p.options ++ found } rest
    | operand =>
      if g.stopsAtOperand then .ok { p with operands := p.operands ++ operand :: rest }
      else parseWithin g fuel { p with operands := p.operands ++ [operand] } rest

/-- Reads the arguments of a program, or says what is wrong with them. -/
def parse (g : Grammar) (arguments : List Text) : Except Text Parsed :=
  g.parseWithin (arguments.length + 1) {} arguments

end Grammar

def complaint (name t : Text) : Text := name ++ [':', ' '] ++ t ++ ['\n']

def misuse (name t : Text) : Text :=
  complaint name t ++ "Try '".toList ++ name ++ " --help' for more information.\n".toList

/-- What a program that ends at once writes, complains about, and how it ends. -/
structure Result where
  output : Text := []
  complaints : Text := []
  status : Nat := 0
  deriving Repr, Inhabited

namespace Result

def misused (name t : Text) (status : Nat) : Result := { complaints := misuse name t, status }

end Result

end DaemonDialogue.Script.Program
