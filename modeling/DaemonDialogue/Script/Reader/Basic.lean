import DaemonDialogue.Script.Token

/-!
# Reading scripts: characters

A reader takes characters from strips: at the bottom the script as far as it is known,
above it what aliases stand for. A backslash before the end of a line joins it to the next.
-/

namespace DaemonDialogue.Script.Reader

/-- Text that is read before what is below it; one of an alias that ends in a blank lets the
next word be an alias, too. -/
structure Strip where
  rest : Text
  alias_ : Option Text := none
  opensNext : Bool := false
  deriving Repr, Inhabited

/-- What the next word may be, apart from a word: one on a later line, a keyword, an alias, or
the end mark of a document. -/
structure Check where
  lines : Bool := false
  keywords : Bool := false
  aliases : Bool := false
  mark : Bool := false
  deriving DecidableEq, Repr, Inhabited

/-- A document that begins on the next line: its number, the line that ends it, whether tabs
before its lines are left out, and whether it is taken as it is. -/
structure Awaited where
  number : Nat
  mark : Text
  noTabs : Bool
  verbatim : Bool
  deriving Repr, Inhabited

structure State where
  strips : List Strip
  complete : Bool := true
  line : Nat := 1
  aliases : List (Text × Text) := []
  busy : List Text := []
  again : Bool := false
  last : Token := .newline
  check : Check := {}
  word : Word := []
  quoted : Bool := false
  redirect : Redirect := .copy 0 []
  awaited : List Awaited := []
  documents : List (Nat × Word) := []
  nextDocument : Nat := 0
  deriving Inhabited

/-- Why reading stops: something is wrong on a line, or what follows is not known yet. -/
inductive Stop
  | fault (line : Nat) (f : SyntaxFault)
  | starved
  deriving DecidableEq, Repr, Inhabited

abbrev Parse := EStateM Stop State

def fail {α : Type} (f : SyntaxFault) : Parse α := do
  throw (.fault (← get).line f)

/-- The strips without those above the last one that are used up, and whether one of them lets
the next word be an alias. -/
def settle : List Strip → Bool → List Strip × Bool
  | ⟨[], _, opens⟩ :: next :: below, open_ => settle (next :: below) (open_ || opens)
  | strips, open_ => (strips, open_)

/-- Lets go of strips that are used up. -/
def settled : Parse Unit := modify fun s =>
  match s.strips with
  | ⟨[], _, _⟩ :: _ :: _ =>
    let (strips, open_) := settle s.strips false
    { s with strips, check := { s.check with aliases := s.check.aliases || open_ } }
  | _ => s

/-- The next character; none behind the last. -/
def next : Parse (Option Char) := do
  settled
  let s ← get
  match s.strips with
  | ⟨c :: rest, a, o⟩ :: below =>
    set { s with strips := ⟨rest, a, o⟩ :: below }
    return some c
  | _ => if s.complete then return none else throw .starved

def back (c : Option Char) : Parse Unit := modify fun s =>
  match c, s.strips with
  | some c, ⟨rest, a, o⟩ :: below => { s with strips := ⟨c :: rest, a, o⟩ :: below }
  | _, _ => s

/-- A text without the joints at its beginning, and how many there were. -/
def unjoined : Text → Nat → Text × Nat
  | '\\' :: '\n' :: rest, n => unjoined rest (n + 1)
  | t, n => (t, n)

def nextJoined : Parse (Option Char) := do
  settled
  let s ← get
  match s.strips with
  | ⟨'\\' :: rest, a, o⟩ :: below =>
    let (rest, joints) := unjoined ('\\' :: rest) 0
    set { s with strips := ⟨rest, a, o⟩ :: below, line := s.line + joints }
    if rest == ['\\'] && below.isEmpty && !s.complete then throw .starved
    next
  | _ => next

def newLine : Parse Unit := modify fun s => { s with line := s.line + 1 }

def setCheck (check : Check) : Parse Unit := modify fun s => { s with check }

/-- Reads some characters if the next ones are those, or else none. -/
def takeText : Text → Parse Bool
  | [] => return true
  | c :: rest => do
    let d ← next
    if d = some c then
      if ← takeText rest then return true
      else
        back d
        return false
    else
      back d
      return false

def nameFrom (fuel : Nat) (isPart : Char → Bool) (c : Option Char) (name : Text) :
    Parse (Text × Option Char) :=
  match fuel, c with
  | fuel + 1, some d =>
    if isPart d then do nameFrom fuel isPart (← nextJoined) (d :: name)
    else return (name.reverse, c)
  | _, c => return (name.reverse, c)

def size (s : State) : Nat := s.strips.foldl (fun n strip => n + strip.rest.length) 0

end DaemonDialogue.Script.Reader
