import DaemonDialogue.Pattern.CharPiece
import DaemonDialogue.Pattern.Expr
import DaemonDialogue.Pattern.TextTrie

/-!
# Programs of regular expressions

The program of an expression is an automaton that reads a text forwards. There must be
room for it, and for the one that reads the text backwards.
-/

namespace DaemonDialogue.Pattern

open Automaton

def textPiece : List UInt8 → Build Piece
  | [] => single (.pass 0)
  | b :: rest => do
    let first ← single (.byte ⟨b, b, 0⟩)
    behind first rest
where
  behind (piece : Piece) : List UInt8 → Build Piece
    | [] => pure piece
    | b :: rest => do
      let piece ← join piece (← single (.byte ⟨b, b, 0⟩))
      behind piece rest

def texts? (parts : List Expr) : Option (List (List UInt8)) :=
  parts.mapM fun
    | .text bytes => some bytes
    | _ => none

def joinSome (a b : Option Piece) : Build (Option Piece) := do
  match a, b with
  | some a, some b => return some (← join a b)
  | a, b => return a.or b

mutual

def Expr.build (back : Bool) : Expr → Build Piece
  | .empty => single (.pass 0)
  | .text bytes => textPiece (if back then bytes.reverse else bytes)
  | .set chars => charPiece back chars
  | .assert a => single (.assert a 0)
  | .repeated body least greatest greedy =>
    repeated (body.build back) (body.minLength.all (· == 0)) greedy least greatest
  | .group _ body => do
    if back then body.build back
    else
      let start ← addPass
      let inner ← body.build back
      let finish ← addPass
      link start inner.start
      link inner.finish finish
      return ⟨start, finish⟩
  | .sequence parts => do
    match ← buildParts back parts with
    | some piece => return piece
    | none => single (.pass 0)
  | .choice parts =>
    match texts? parts with
    | some texts => TextTrie.piece (if back then texts.map List.reverse else texts)
    | none => buildChoice back parts

def buildParts (back : Bool) : List Expr → Build (Option Piece)
  | [] => pure none
  | e :: rest => do
    if back then
      let others ← buildParts back rest
      let first ← e.build back
      joinSome others (some first)
    else
      let first ← e.build back
      let others ← buildParts back rest
      joinSome (some first) others

def buildChoice (back : Bool) : List Expr → Build Piece
  | [] => anyOf []
  | [e] => e.build back
  | a :: b :: rest => do
    let first ← a.build back
    let second ← b.build back
    let fork ← addFork true
    let finish ← addPass
    link fork first.start
    link first.finish finish
    link fork second.start
    link second.finish finish
    buildOthers back fork finish rest
    return ⟨fork, finish⟩

def buildOthers (back : Bool) (fork finish : Nat) : List Expr → Build Unit
  | [] => pure ()
  | e :: rest => do
    let piece ← e.build back
    link fork piece.start
    link piece.finish finish
    buildOthers back fork finish rest

end

/-- What stands in front of an expression so that it may match anywhere: any bytes, as few as
possible. Nothing is needed in front of one that matches only at the end that is read first. -/
def leadPiece (back : Bool) (e : Expr) : Build Piece :=
  let anchored := if back then e.endsWith .textEnd else e.beginsWith .textStart
  if anchored then single (.pass 0) else star (anyOf [(0, 0xFF)]) false false

def Expr.buildAll (back : Bool) (e : Expr) : Build Nat := do
  let lead ← leadPiece back e
  let body ← (Expr.group 0 e).build back
  let finish ← add .accept
  link body.finish finish
  link lead.finish body.start
  return body.start

/-- An automaton and where it begins. -/
structure Program where
  states : Array State
  start : Nat
  /-- At least the number of states and links. -/
  room : Nat
  deriving Repr, Inhabited

/-- The program of an expression, if there is room for it in both directions. -/
def Expr.program? (e : Expr) : Option Program := do
  let (start, forward) ← (e.buildAll false).run {}
  let _ ← (e.buildAll true).run {}
  some ⟨forward.states, start, forward.room⟩

end DaemonDialogue.Pattern
