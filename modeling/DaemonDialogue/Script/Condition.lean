import DaemonDialogue.File.Tree
import DaemonDialogue.Script.Number

/-!
# Conditions

Comparisons of texts and numbers and questions about files, joined by `-a` and `-o`. Whether
an argument is an operator depends on how many are behind it.
-/

namespace DaemonDialogue.Script.Condition

inductive FileQuestion
  | exists_
  | regular
  | directory
  | characterDevice
  | socket
  | nonEmpty
  | executable
  | sticky
  | other
  deriving DecidableEq, Repr, Inhabited

inductive Unary
  | empty
  | nonEmpty
  | terminal
  | file (q : FileQuestion)
  deriving DecidableEq, Repr, Inhabited

inductive Binary
  | equal
  | different
  | before
  | after
  | numbers (o : Ordering) (negated : Bool)
  | newer
  | older
  | same
  deriving DecidableEq, Repr, Inhabited

inductive Operator
  | unary (u : Unary)
  | binary (b : Binary)
  | not
  | both
  | either
  | open_
  | close
  deriving DecidableEq, Repr, Inhabited

def operators : List (String × Operator) :=
  let file (q : FileQuestion) : Operator := .unary (.file q)
  [("-e", file .exists_), ("-r", file .exists_), ("-w", file .exists_), ("-x", file .executable),
    ("-O", file .exists_), ("-G", file .exists_), ("-f", file .regular), ("-d", file .directory),
    ("-c", file .characterDevice), ("-b", file .other), ("-p", file .other), ("-u", file .other),
    ("-g", file .other), ("-k", file .sticky), ("-s", file .nonEmpty), ("-h", file .other),
    ("-L", file .other), ("-S", file .socket), ("-t", .unary .terminal), ("-z", .unary .empty),
    ("-n", .unary .nonEmpty), ("=", .binary .equal), ("!=", .binary .different),
    ("<", .binary .before), (">", .binary .after), ("-eq", .binary (.numbers .eq false)),
    ("-ne", .binary (.numbers .eq true)), ("-lt", .binary (.numbers .lt false)),
    ("-ge", .binary (.numbers .lt true)), ("-gt", .binary (.numbers .gt false)),
    ("-le", .binary (.numbers .gt true)), ("-nt", .binary .newer), ("-ot", .binary .older),
    ("-ef", .binary .same), ("!", .not), ("-a", .both), ("-o", .either), ("(", .open_), (")", .close)]

def operator? (t : Text) : Option Operator :=
  (operators.find? fun e => e.1.toList == t).map (·.2)

inductive Fault
  | unexpected (t : Text)
  | argumentExpected (operator : Text)
  | notClosed
  | notANumber (t : Text)
  | missingBracket
  deriving DecidableEq, Repr, Inhabited

def Fault.message : Fault → Text
  | .unexpected t => if t.isEmpty then "unexpected operator".toList else t ++ ": unexpected operator".toList
  | .argumentExpected operator => operator ++ ": argument expected".toList
  | .notClosed => "closing paren expected".toList
  | .notANumber t => "Illegal number: ".toList ++ t
  | .missingBracket => "missing ]".toList

/-- What an argument is: nothing, an operator, or an operand. -/
inductive Token
  | none
  | operator (o : Operator)
  | operand
  deriving DecidableEq, Repr, Inhabited

def isBinary (t : Text) : Bool :=
  match operator? t with
  | some (.binary _) => true
  | _ => false

/-- Is what looks like a unary operator an operand, by what is behind it? -/
def isOperand : List Text → Bool
  | [] => true
  | [_] => false
  | t :: _ :: _ => isBinary t

/-- What the first of some arguments is. -/
def token : List Text → Token
  | [] => .none
  | t :: rest =>
    match operator? t with
    | some (.unary u) => if isOperand rest then .operand else .operator (.unary u)
    | some .open_ => if rest.isEmpty then .operand else .operator .open_
    | some o => .operator o
    | none => .operand

/-- The directory in which everyone may make files. -/
def stickyPaths : List File.Place := [["tmp".toUTF8.toList]]

def asks (files : File.Tree) (q : FileQuestion) (path : Text) : Bool :=
  match files.resolve ⟨Text.toBytes path⟩ with
  | .error _ => false
  | .ok (place, entry) =>
    match q, entry with
    | .exists_, _ => true
    | .regular, .file _ => true
    | .directory, .directory _ => true
    | .characterDevice, .device _ => true
    | .socket, .socket _ => true
    | .nonEmpty, .file id => !(files.content id).stored.isEmpty
    | .nonEmpty, .directory _ => true
    | .executable, .file id => (files.content id).executable
    | .executable, .directory _ => true
    | .sticky, .directory _ => stickyPaths.contains place
    | _, _ => false

def fileNumber? (files : File.Tree) (path : Text) : Option Nat :=
  match files.find ⟨Text.toBytes path⟩ with
  | .ok (.file id) => some id
  | _ => none

/-- Was a file made after another, which may be missing? -/
def isNewer : Option Nat → Option Nat → Bool
  | some m, some n => n < m
  | some _, none => true
  | none, _ => false

def isSame (files : File.Tree) (a b : Text) : Bool :=
  match files.resolve ⟨Text.toBytes a⟩, files.resolve ⟨Text.toBytes b⟩ with
  | .ok (_, .file m), .ok (_, .file n) => m == n
  | .ok (p, .directory _), .ok (q, .directory _) => p == q
  | .ok (p, .device _), .ok (q, .device _) => p == q
  | _, _ => false

abbrev Evaluation := StateT (List Text) (Except Fault)

def number (t : Text) : Evaluation Int :=
  match Number.decimal? t with
  | some n => return n
  | none => throw (.notANumber t)

def compare (files : File.Tree) (a b : Text) : Binary → Evaluation Bool
  | .equal => return a == b
  | .different => return a != b
  | .before => return decide (a < b)
  | .after => return decide (b < a)
  | .numbers o negated => do
    let m ← number a
    let n ← number b
    return (Ord.compare m n == o) != negated
  | .newer => return isNewer (fileNumber? files a) (fileNumber? files b)
  | .older => return isNewer (fileNumber? files b) (fileNumber? files a)
  | .same => return isSame files a b

def behind : Evaluation (List Text) := do return (← get).drop 1

def advance : Evaluation Unit := modify (·.drop 1)

mutual

/-- The value of conditions of which one is enough; the first argument of them is `t`. -/
def any (files : File.Tree) : Nat → Token → Bool → Evaluation Bool
  | 0, _, before => return before
  | fuel + 1, t, before => do
    let b ← all files fuel t true
    let before := before || b
    if token (← behind) = .operator .either then
      advance
      advance
      any files fuel (token (← get)) before
    else return before

def all (files : File.Tree) : Nat → Token → Bool → Evaluation Bool
  | 0, _, before => return before
  | fuel + 1, t, before => do
    let b ← negated files fuel t
    let before := before && b
    if token (← behind) = .operator .both then
      advance
      advance
      all files fuel (token (← get)) before
    else return before

def negated (files : File.Tree) : Nat → Token → Evaluation Bool
  | 0, _ => return false
  | fuel + 1, t => do
    if t = .operator .not then
      let next := token (← behind)
      if next != .none then advance
      return !(← negated files fuel next)
    else primary files fuel t

def primary (files : File.Tree) : Nat → Token → Evaluation Bool
  | 0, _ => return false
  | fuel + 1, t => do
    match t with
    | .none => return false
    | .operator .open_ =>
      advance
      let next := token (← get)
      if next = .operator .close then return false
      let b ← any files fuel next false
      advance
      if token (← get) != .operator .close then throw .notClosed
      return b
    | .operator (.unary u) =>
      let written := (← get).headD []
      advance
      match (← get).head? with
      | none => throw (.argumentExpected written)
      | some operand =>
        match u with
        | .empty => return operand.isEmpty
        | .nonEmpty => return !operand.isEmpty
        | .terminal =>
          let _ ← number operand
          return false
        | .file q => return asks files q operand
    | _ => binaryOrText files

/-- The value of a comparison, or of a text that stands alone. -/
def binaryOrText (files : File.Tree) : Evaluation Bool := do
  let first := (← get).headD []
  match token (← behind) with
  | .operator (.binary b) =>
    advance
    let written := (← get).headD []
    advance
    match (← get).head? with
    | none => throw (.argumentExpected written)
    | some second => compare files first second b
  | _ => return !first.isEmpty

end

/-- The value of some arguments from the first on, which is `t`. -/
def whole (files : File.Tree) (arguments : List Text) (t : Token) : Except Fault Bool := do
  match ← (any files (4 * arguments.length + 4) t false).run arguments with
  | (_, op :: _ :: _) => .error (.unexpected op)
  | (b, _) => return b

/-- The value of three arguments, `negated` or not. A text that negates counts only once. -/
def ofThree (files : File.Tree) (negated : Bool) (a op b : Text) : Except Fault Bool :=
  let value (negated : Bool) (v : Except Fault Bool) : Except Fault Bool := v.map (· != negated)
  if isBinary op then value negated (whole files [a, op, b] .operand)
  else if a == ['('] && b == [')'] then value negated (whole files [op] (token [op]))
  else if a == ['!'] then value true (whole files [op, b] (token [op, b]))
  else value negated (whole files [a, op, b] (token [a, op, b]))

def evaluate (files : File.Tree) : List Text → Except Fault Bool
  | [] => .ok false
  | [a, op, b] => ofThree files false a op b
  | [a, b, c, d] =>
    if a == ['('] && d == [')'] then whole files [b, c] (token [b, c])
    else if a == ['!'] then ofThree files true b c d
    else whole files [a, b, c, d] (token [a, b, c, d])
  | arguments => whole files arguments (token arguments)

def ofCommand (files : File.Tree) (name : Text) (arguments : List Text) : Except Fault Bool :=
  if name.head? == some '[' then
    if (arguments.getLast?.bind List.head?) == some ']' then evaluate files arguments.dropLast
    else .error .missingBracket
  else evaluate files arguments

end Condition
end DaemonDialogue.Script
