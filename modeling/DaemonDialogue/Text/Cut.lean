/-!
# Cutting lists

Lists cut behind a given beginning, and at the first or last place of an element.
-/

namespace DaemonDialogue.Cut

variable {α : Type} [DecidableEq α]

def behind? : List α → List α → Option (List α)
  | [], text => some text
  | _ :: _, [] => none
  | a :: beginning, b :: text => if a = b then behind? beginning text else none

/-- What is before and behind the first place of an element. -/
def atFirst? (a : α) (text : List α) : Option (List α × List α) :=
  match text.dropWhile (· ≠ a) with
  | [] => none
  | _ :: rest => some (text.takeWhile (· ≠ a), rest)

/-- What is before and behind the last place of an element. -/
def atLast? (a : α) (text : List α) : Option (List α × List α) :=
  (atFirst? a text.reverse).map fun (behind, before) => (before.reverse, behind.reverse)

/-- Every occurrence of `old` replaced, from the left; `fuel` bounds how many steps that takes. -/
def replaceWithin [BEq α] (old new : List α) : Nat → List α → List α
  | 0, text => text
  | _, [] => []
  | fuel + 1, a :: rest =>
    match behind? old (a :: rest) with
    | some after => new ++ replaceWithin old new fuel after
    | none => a :: replaceWithin old new fuel rest

def replace (old new text : String) : String :=
  String.ofList (replaceWithin old.toList new.toList (text.length + 1) text.toList)

end DaemonDialogue.Cut
