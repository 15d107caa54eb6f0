/-!
# Properties of characters

A property is kept as the increasing list of the code points at which it begins
and ceases to hold, so a character has it when an odd number of them is not
above its code point.
-/

namespace DaemonDialogue.Property

/-- How many of the first `high` turns are not above `n`, known to be at least `low`. -/
def turnsUpTo (turns : Array Nat) (n low : Nat) : Nat → Nat
  | 0 => low
  | span + 1 =>
    let half := (span + 1) / 2
    if turns.getD (low + half) (n + 1) ≤ n then
      turnsUpTo turns n (low + half + 1) (span - half)
    else turnsUpTo turns n low half
termination_by span => span
decreasing_by all_goals omega

def holdsAt (turns : Array Nat) (c : Char) : Bool :=
  turnsUpTo turns c.toNat 0 turns.size % 2 == 1

/-- The first and last code point of each run of characters with a property. -/
def ranges (turns : Array Nat) : List (Nat × Nat) :=
  pairs turns.toList
where
  pairs : List Nat → List (Nat × Nat)
    | first :: behind :: rest => (first, behind - 1) :: pairs rest
    | _ => []

end DaemonDialogue.Property
