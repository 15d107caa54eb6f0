import DaemonDialogue.Script.Program.Options
import DaemonDialogue.Script.Program.Regular

/-!
# What arguments are worth

An expression stands in arguments, each operator and operand in one of its own. Values are texts, which
are numbers where they look like it; a text that is empty or zero counts as false.
-/

namespace DaemonDialogue.Script.Program.Worth

/-- Why an expression has no value. -/
inductive Fault
  | missing (after : Option Text)
  | unexpected (argument : Text)
  | unexpectedClosing
  | unclosed (last : Text)
  | noInteger
  | zeroDivisor
  | pattern (f : Regular.Fault)
  deriving Repr

def Fault.message : Fault → Text
  | .missing none => "missing operand".toList
  | .missing (some t) => "syntax error: missing argument after ".toList ++ Grammar.quote t
  | .unexpected t => "syntax error: unexpected argument ".toList ++ Grammar.quote t
  | .unexpectedClosing => "syntax error: unexpected ')'".toList
  | .unclosed t => "syntax error: expecting ')' after ".toList ++ Grammar.quote t
  | .noInteger => "non-integer argument".toList
  | .zeroDivisor => "division by zero".toList
  | .pattern f => f.message.toList

def integer? (t : Text) : Option Int :=
  let (negative, digits) := match t with
    | '-' :: digits => (true, digits)
    | digits => (false, digits)
  if digits.isEmpty || !digits.all Ascii.isDigit then none
  else
    let n : Int := Ascii.digitsValue digits
    some (if negative then -n else n)

/-- Does a value count as false? -/
def isNull (t : Text) : Bool :=
  match t with
  | [] => true
  | '-' :: digits => !digits.isEmpty && digits.all (· == '0')
  | digits => digits.all (· == '0')

def ofBool (b : Bool) : Text := if b then ['1'] else ['0']

/-- What a pattern finds at the beginning of a text: its first group, or how much it matches. -/
def found (t pattern : Text) : Except Fault Text := do
  let r ← (Regular.read false pattern).mapError .pattern
  let hasGroup := 0 < r.groups
  match (r.ends {} { rest := t }).head? with
  | none => return if hasGroup then [] else ['0']
  | some e => return if hasGroup then (e.groups.lookup 1).getD [] else Text.ofNat e.position

/-- The value of two integers. -/
def calculate (operator : Text) (a b : Text) : Except Fault Text :=
  match integer? a, integer? b with
  | some m, some n =>
    match operator with
    | ['+'] => .ok (Text.ofInt (m + n))
    | ['-'] => .ok (Text.ofInt (m - n))
    | ['*'] => .ok (Text.ofInt (m * n))
    | operator =>
      if n = 0 then .error .zeroDivisor
      else .ok (Text.ofInt (if operator == ['/'] then m.tdiv n else m.tmod n))
  | _, _ => .error .noInteger

/-- How two values compare: as numbers, if both are, or else as texts. -/
def compare (operator : Text) (a b : Text) : Bool :=
  let (less, equal) := match integer? a, integer? b with
    | some m, some n => (decide (m < n), m == n)
    | _, _ => (decide (a < b), a == b)
  match String.ofList operator with
  | "<" => less
  | "<=" => less || equal
  | "=" | "==" => equal
  | "!=" => !equal
  | ">=" => !less
  | _ => !less && !equal

/-- The operators from the one that binds least. -/
def levels : List (List String) :=
  [["|"], ["&"], ["<", "<=", "=", "==", "!=", ">=", ">"], ["+", "-"], ["*", "/", "%"], [":"]]

/-- The value of an operator between two values. -/
def apply (operator : Text) (a b : Text) : Except Fault Text :=
  match operator with
  | ['|'] => .ok (if !isNull a then a else if isNull b then ['0'] else b)
  | ['&'] => .ok (if isNull a || isNull b then ['0'] else a)
  | [':'] => found a b
  | operator =>
    if ["+", "-", "*", "/", "%"].contains (String.ofList operator) then calculate operator a b
    else .ok (ofBool (compare operator a b))

/-- How many values follow the name of a function. -/
def arity? (name : Text) : Option Nat :=
  match String.ofList name with
  | "match" | "index" => some 2
  | "substr" => some 3
  | "length" => some 1
  | _ => none

def call (name : Text) (values : List Text) : Except Fault Text :=
  match String.ofList name, values with
  | "length", [t] => .ok (Text.ofNat t.length)
  | "match", [t, pattern] => found t pattern
  | "index", [t, cs] =>
    let before := t.takeWhile fun c => !cs.contains c
    .ok (Text.ofNat (if before.length < t.length then before.length + 1 else 0))
  | "substr", [t, first, count] =>
    match integer? first, integer? count with
    | some i, some n => .ok (if i ≤ 0 || n ≤ 0 then [] else (t.drop (i.toNat - 1)).take n.toNat)
    | _, _ => .ok []
  | _, _ => .ok []

/-- What is read next: an expression of some level, the rest of one behind its first value, or some
values. -/
inductive Goal
  | level (operators : List (List String))
  | behind (operators : List String) (tighter : List (List String)) (value : Text)
  | values (count : Nat)

/-- Reads what is asked for; `counts` is false where only the form matters. `fuel` bounds the number of
steps. -/
def read (all : List Text) : Nat → Goal → Bool → List Text → Except Fault (List Text × List Text)
  | 0, _, _, ts => .ok ([], ts)
  | fuel + 1, goal, counts, ts =>
    let before (ts : List Text) : Option Text :=
      if ts.length < all.length then all[all.length - ts.length - 1]? else none
    let value (e : Except Fault Text) : Except Fault Text := if counts then e else .ok []
    match goal with
    | .values 0 => .ok ([], ts)
    | .values (n + 1) => do
      let (v, ts) ← read all fuel (.level []) counts ts
      let (vs, ts) ← read all fuel (.values n) counts ts
      return (v ++ vs, ts)
    | .level (operators :: tighter) => do
      let (v, ts) ← read all fuel (.level tighter) counts ts
      read all fuel (.behind operators tighter (v.headD [])) counts ts
    | .behind operators tighter a =>
      match ts with
      | operator :: rest =>
        if !operators.contains (String.ofList operator) then .ok ([a], ts)
        else do
          let needed := match operator with
            | ['|'] => isNull a
            | ['&'] => !isNull a
            | _ => true
          let (v, ts) ← read all fuel (.level tighter) (counts && needed) rest
          let r ← value (apply operator a (v.headD []))
          read all fuel (.behind operators tighter r) counts ts
      | [] => .ok ([a], ts)
    | .level [] =>
      match ts with
      | [] => .error (.missing (before ts))
      | ['('] :: rest => do
        let (v, ts) ← read all fuel (.level levels) counts rest
        match ts with
        | [')'] :: ts => return (v, ts)
        | ts => .error (.unclosed ((before ts).getD []))
      | [')'] :: _ => .error .unexpectedClosing
      | ['+'] :: rest =>
        match rest with
        | t :: rest => .ok ([t], rest)
        | [] => .error (.missing (before rest))
      | t :: rest =>
        match arity? t with
        | none => .ok ([t], rest)
        | some n => do
          let (vs, ts) ← read all fuel (.values n) counts rest
          return ([← value (call t vs)], ts)

def value (ts : List Text) : Except Fault Text := do
  let (v, rest) ← read ts ((ts.length + 1) * 20) (.level levels) true ts
  match rest with
  | [] => return v.headD []
  | t :: _ => .error (.unexpected t)

def shown (name : Text) (arguments : List Text) : Result :=
  let arguments := match arguments with
    | ['-', '-'] :: rest => rest
    | arguments => arguments
  if arguments.isEmpty then .misused name "missing operand".toList 2
  else
    match value arguments with
    | .ok t => { output := t ++ ['\n'], status := if isNull t then 1 else 0 }
    | .error f => { complaints := complaint name f.message, status := 2 }

end DaemonDialogue.Script.Program.Worth
