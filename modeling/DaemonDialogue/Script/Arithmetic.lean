import DaemonDialogue.Script.Number

/-!
# Arithmetic expressions

Expressions over 64-bit integers that wrap, with the operators of C. Names stand for the
numbers that variables hold, and may be given others.
-/

namespace DaemonDialogue.Script.Arithmetic

inductive Operator
  | multiply
  | divide
  | remainder
  | add
  | subtract
  | shiftLeft
  | shiftRight
  | less
  | lessOrEqual
  | greater
  | greaterOrEqual
  | equal
  | different
  | bitAnd
  | bitXor
  | bitOr
  deriving DecidableEq, Repr, Inhabited

def Operator.level : Operator → Nat
  | multiply | divide | remainder => 0
  | add | subtract => 1
  | shiftLeft | shiftRight => 2
  | less | lessOrEqual | greater | greaterOrEqual => 3
  | equal | different => 4
  | bitAnd => 5
  | bitXor => 6
  | bitOr => 7

inductive Token
  | number (n : Int)
  | name (t : Text)
  | operator (o : Operator)
  | assign (o : Option Operator)
  | not
  | bitNot
  | both
  | either
  | question
  | colon
  | open_
  | close
  | unknown
  deriving DecidableEq, Repr, Inhabited

/-- Why an expression has no value; some are refused by all that is known of the variables. -/
inductive Fault
  | expected (what : String)
  | divisionByZero
  | notANumber (text : Text)
  | readOnly (name : Text)
  | overflow
  deriving DecidableEq, Repr, Inhabited

def Fault.message (expression : Text) : Fault → Text
  | .expected what =>
    "arithmetic expression: expecting ".toList ++ what.toList ++ ": \"".toList ++ expression ++ ['"']
  | .divisionByZero =>
    "arithmetic expression: division by zero: \"".toList ++ expression ++ ['"']
  | .notANumber text => "Illegal number: ".toList ++ text
  | .readOnly name => name ++ ": is read only".toList
  | .overflow => []

/-- The operators in the order in which they are looked for. -/
def symbols : List (String × Token) :=
  [("<<=", .assign (some .shiftLeft)), (">>=", .assign (some .shiftRight)), ("*=", .assign (some .multiply)),
    ("/=", .assign (some .divide)), ("%=", .assign (some .remainder)), ("+=", .assign (some .add)),
    ("-=", .assign (some .subtract)), ("&=", .assign (some .bitAnd)), ("^=", .assign (some .bitXor)),
    ("|=", .assign (some .bitOr)), ("<<", .operator .shiftLeft), (">>", .operator .shiftRight),
    ("<=", .operator .lessOrEqual), (">=", .operator .greaterOrEqual), ("==", .operator .equal),
    ("!=", .operator .different), ("&&", .both), ("||", .either), ("*", .operator .multiply),
    ("/", .operator .divide), ("%", .operator .remainder), ("+", .operator .add),
    ("-", .operator .subtract), ("<", .operator .less), (">", .operator .greater),
    ("&", .operator .bitAnd), ("^", .operator .bitXor), ("|", .operator .bitOr), ("=", .assign none),
    ("!", .not), ("~", .bitNot), ("?", .question), (":", .colon), ("(", .open_), (")", .close)]

def token (c : Char) (rest : Text) : Token × Text :=
  if Ascii.isDigit c then
    match Number.found? 0 (c :: rest) with
    | some f => (.number f.value, f.rest)
    | none => (.unknown, rest)
  else if Text.isNameStart c then
    (.name (c :: rest.takeWhile Text.isNameChar), rest.dropWhile Text.isNameChar)
  else
    match symbols.find? fun s => s.1.toList.isPrefixOf (c :: rest) with
    | some (s, t) => (t, (c :: rest).drop s.length)
    | none => (.unknown, rest)

/-- The tokens of a text; `fuel` bounds their number. -/
def tokens : Nat → Text → List Token
  | 0, _ => []
  | _, [] => []
  | fuel + 1, c :: rest =>
    if c == ' ' || c == '\t' || c == '\n' then tokens fuel rest
    else
      let (t, rest) := token c rest
      t :: tokens fuel rest

/-- What expressions know of variables, and the values that they have given to some, the last
first. -/
structure Scope where
  value? : Text → Option Text
  isReadOnly : Text → Bool
  assigned : List (Text × Text) := []

abbrev Evaluation := StateT (List Token × Scope) (Except Fault)

def ofBool (b : Bool) : Int64 := if b then 1 else 0

/-- The value of two numbers under an operator. -/
def apply (o : Operator) (a b : Int64) : Except Fault Int64 :=
  match o with
  | .multiply => .ok (a * b)
  | .divide =>
    if b = 0 then .error .divisionByZero
    else if b = -1 && a = Int64.minValue then .error .overflow
    else .ok (a / b)
  | .remainder =>
    if b = 0 then .error .divisionByZero
    else if b = -1 && a = Int64.minValue then .error .overflow
    else .ok (a % b)
  | .add => .ok (a + b)
  | .subtract => .ok (a - b)
  | .shiftLeft => .ok (a <<< b)
  | .shiftRight => .ok (a >>> b)
  | .less => .ok (ofBool (a < b))
  | .lessOrEqual => .ok (ofBool (a ≤ b))
  | .greater => .ok (ofBool (b < a))
  | .greaterOrEqual => .ok (ofBool (b ≤ a))
  | .equal => .ok (ofBool (a == b))
  | .different => .ok (ofBool (a != b))
  | .bitAnd => .ok (a &&& b)
  | .bitXor => .ok (a ^^^ b)
  | .bitOr => .ok (a ||| b)

def peek : Evaluation (Option Token) := do return (← get).1.head?

def skip : Evaluation Unit := modify fun (ts, s) => (ts.drop 1, s)

def expected {α : Type} (what : String) : Evaluation α := throw (.expected what)

/-- The number that a variable holds. -/
def valueOf (name : Text) : Evaluation Int64 := do
  let (_, scope) ← get
  let text := ((scope.assigned.lookup name).orElse fun _ => scope.value? name).getD []
  match Number.ofVariable? text with
  | some n => return Int64.ofInt n
  | none => throw (.notANumber text)

/-- Gives a number to a variable. -/
def assign (name : Text) (n : Int64) : Evaluation Int64 := do
  let (ts, scope) ← get
  if scope.isReadOnly name then throw (.readOnly name)
  set (ts, { scope with assigned := (name, Text.ofInt n.toInt) :: scope.assigned })
  return n

def operator? : Evaluation (Option Operator) := do
  match ← peek with
  | some (.operator o) => return some o
  | _ => return none

mutual

/-- The value of an expression that may be an assignment; with `idle` nothing is assigned and
nothing divided. -/
def assignment : Nat → Bool → Evaluation Int64
  | 0, _ => expected "primary"
  | fuel + 1, idle => do
    match (← get).1 with
    | .name x :: .assign o :: rest =>
      modify fun (_, s) => (rest, s)
      let n ← assignment fuel idle
      if idle then return n
      match o with
      | none => assign x n
      | some o => assign x (← apply o (← valueOf x) n)
    | _ => choice fuel idle

def choice : Nat → Bool → Evaluation Int64
  | 0, _ => expected "primary"
  | fuel + 1, idle => do
    let a ← either fuel idle
    if (← peek) != some .question then return a
    skip
    let b ← assignment fuel (idle || a == 0)
    if (← peek) != some .colon then expected "':'"
    skip
    let c ← choice fuel (idle || a != 0)
    return if a == 0 then c else b

def either : Nat → Bool → Evaluation Int64
  | 0, _ => expected "primary"
  | fuel + 1, idle => do
    let a ← both fuel idle
    if (← peek) != some .either then return a
    skip
    let b ← either fuel (idle || a != 0)
    return ofBool (a != 0 || b != 0)

def both : Nat → Bool → Evaluation Int64
  | 0, _ => expected "primary"
  | fuel + 1, idle => do
    let a ← binary fuel idle 8
    if (← peek) != some .both then return a
    skip
    let b ← both fuel (idle || a == 0)
    return ofBool (a != 0 && b != 0)

/-- The value of what operators that bind tighter than `level` join. -/
def binary : Nat → Bool → Nat → Evaluation Int64
  | 0, _, _ => expected "primary"
  | fuel + 1, idle, level => do more fuel idle level (← primary fuel idle)

/-- The value of a number and what operators that bind tighter than `level` join with it. -/
def more : Nat → Bool → Nat → Int64 → Evaluation Int64
  | 0, _, _, a => return a
  | fuel + 1, idle, level, a => do
    match ← operator? with
    | some o =>
      if o.level < level then
        skip
        let b ← binary fuel idle o.level
        let c ← if idle then pure b else apply o a b
        more fuel idle level c
      else return a
    | none => return a

def primary : Nat → Bool → Evaluation Int64
  | 0, _ => expected "primary"
  | fuel + 1, idle => do
    let t ← peek
    skip
    match t with
    | some (.number n) => return Int64.ofInt n
    | some (.name x) => if idle then return 0 else valueOf x
    | some .open_ =>
      let a ← assignment fuel idle
      if (← peek) != some .close then expected "')'"
      skip
      return a
    | some (.operator .add) => primary fuel idle
    | some (.operator .subtract) => return -(← primary fuel idle)
    | some .not => return ofBool ((← primary fuel idle) == 0)
    | some .bitNot => return ~~~(← primary fuel idle)
    | _ => expected "primary"

end

/-- The value of an expression, and the values that it gives to variables, in order. -/
def evaluate (scope : Scope) (expression : Text) : Except Fault (Int × List (Text × Text)) := do
  let ts := tokens expression.length expression
  match ← (assignment (8 * ts.length + 8) false).run (ts, scope) with
  | (n, [], scope) => return (n.toInt, scope.assigned.reverse)
  | _ => .error (.expected "EOF")

end DaemonDialogue.Script.Arithmetic
