import DaemonDialogue.Script.Text

/-!
# Scripts

A daemon may be played by a script: commands with words, joined by sequences, pipes,
conditions and loops. A word has pieces, some of which are only known when it is used.
-/

namespace DaemonDialogue.Script

/-- What the use of a parameter asks for: its value, the length of it, something else where
it is not set (or where it is), or what is left of it without one of its ends. -/
inductive Use
  | value
  | length
  | otherwise
  | instead
  | assign
  | complain
  | cutFront (longest : Bool)
  | cutBack (longest : Bool)
  | unknown
  deriving DecidableEq, Repr, Inhabited

/-- How the file of a descriptor is opened. -/
inductive OpenMode
  | read
  | readWrite
  | write
  | overwrite
  | append
  deriving DecidableEq, Repr, Inhabited

mutual

/-- A piece of a word. A shielded character has no meaning but itself, and quotes begin or end
at each mark. -/
inductive Piece
  | char (c : Char)
  | shielded (c : Char)
  | quote
  | parameter (name : Text) (use : Use) (emptyCounts : Bool) (word : List Piece)
  | output (c : Option Command)
  | arithmetic (expression : List Piece)

/-- Where a descriptor of a command leads; a document within the script goes by its number. -/
inductive Redirect
  | open_ (descriptor : Nat) (mode : OpenMode) (path : List Piece)
  | copy (descriptor : Nat) (source : List Piece)
  | document (descriptor : Nat) (number : Nat)

inductive Command
  | simple (line : Nat) (assignments words : List (List Piece)) (redirects : List Redirect)
  | pipeline (stages : List Command) (background : Bool)
  | redirected (line : Nat) (body : Command) (redirects : List Redirect)
  | subshell (line : Nat) (body : Command) (redirects : List Redirect)
  | background (line : Nat) (body : Command) (redirects : List Redirect)
  | both (first second : Command)
  | either (first second : Command)
  | sequence (first second : Command)
  | negation (body : Command)
  | choice (condition yes : Command) (no : Option Command)
  | loop (untilTrue : Bool) (condition body : Command)
  | each (line : Nat) (name : Text) (words : List (List Piece)) (body : Command)
  | select (line : Nat) (subject : List Piece) (cases : List (List (List Piece) × Option Command))
  | definition (line : Nat) (name : Text) (body : Command)

end

deriving instance Repr, Inhabited for Piece, Redirect, Command

abbrev Word := List Piece

namespace Word

def plainBeginning : Word → Text
  | .char c :: rest => c :: plainBeginning rest
  | _ => []

/-- The word as it is written, if all its characters are plain. -/
def plain? : Word → Option Text
  | [] => some []
  | .char c :: rest => (plain? rest).map (c :: ·)
  | _ => none

/-- Does a word give a value to a name? -/
def isAssignment (w : Word) : Bool :=
  let t := plainBeginning w
  Text.isName (t.takeWhile (· != '=')) && t.contains '='

/-- The characters of a word, its marks taken away. -/
def characters : Word → Text
  | [] => []
  | .char c :: rest | .shielded c :: rest => c :: characters rest
  | _ :: rest => characters rest

end Word

end DaemonDialogue.Script
