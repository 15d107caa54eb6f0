import DaemonDialogue.Pattern.Automaton

/-!
# Alternatives that are texts

Texts as alternatives are gathered in a tree. At each place the tree remembers between
which of its branches a text ended, so that an earlier text is preferred to a later one.
-/

namespace DaemonDialogue.Pattern

/-- A tree of texts: the branches in front of each end of a text, and those behind the last. -/
inductive TextTrie
  | node (finished : List (List (UInt8 × TextTrie))) (branches : List (UInt8 × TextTrie))

namespace TextTrie

def empty : TextTrie := .node [] []

def isLeaf : TextTrie → Bool
  | .node finished branches => finished.all (·.isEmpty) && branches.isEmpty

/-- Puts a branch in its place, or in that of the one with the same byte. -/
def putBranch (b : UInt8) (t : TextTrie) : List (UInt8 × TextTrie) → List (UInt8 × TextTrie)
  | [] => [(b, t)]
  | (c, u) :: rest =>
    if b == c then (b, t) :: rest
    else if b < c then (b, t) :: (c, u) :: rest
    else (c, u) :: putBranch b t rest

def add : List UInt8 → TextTrie → TextTrie
  | [], .node finished branches =>
    if isLeaf (.node finished branches) && !finished.isEmpty then .node finished branches
    else .node (finished ++ [branches]) []
  | b :: rest, .node finished branches =>
    .node finished (putBranch b (add rest ((branches.lookup b).getD empty)) branches)

def arrowState : List Arrow → Build (List Nat)
  | [] => pure []
  | [arrow] => return [← Automaton.add (.byte arrow)]
  | arrows => return [← Automaton.add (.bytes arrows)]

mutual

/-- Makes the states of a tree; a text that ends goes on to `finish`. -/
def build (finish : Nat) : TextTrie → Build Nat
  | .node finished branches => do
    let targets ← buildFinished finish finished
    let last ← buildBranches finish branches
    let targets := targets ++ (← arrowState last)
    match targets with
    | [n] => pure n
    | targets => Automaton.add (.fork targets.toArray false)

/-- The states of branches that a text ends behind, and its end. -/
def buildFinished (finish : Nat) : List (List (UInt8 × TextTrie)) → Build (List Nat)
  | [] => pure []
  | branches :: rest => do
    let arrows ← buildBranches finish branches
    let first ← arrowState arrows
    let others ← buildFinished finish rest
    return first ++ finish :: others

def buildBranches (finish : Nat) : List (UInt8 × TextTrie) → Build (List Arrow)
  | [] => pure []
  | (b, t) :: rest => do
    let next ← if t.isLeaf then pure finish else t.build finish
    let others ← buildBranches finish rest
    return ⟨b, b, next⟩ :: others

end

/-- A piece for one of several texts, the earlier the better. -/
def piece (texts : List (List UInt8)) : Build Piece := do
  let finish ← Automaton.addPass
  let start ← (texts.foldl (fun t text => t.add text) empty).build finish
  return ⟨start, finish⟩

end TextTrie
end DaemonDialogue.Pattern
