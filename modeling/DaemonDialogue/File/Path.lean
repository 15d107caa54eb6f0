import DaemonDialogue.Text.Cut

/-!
# Paths

A path is a text in which slashes part the components. Empty components and
single dots, except a dot at the start, do not count.
-/

namespace DaemonDialogue.Path

def isAbsolute (path : String) : Bool :=
  path.toList.head? == some '/'

/-- A path behind another: an absolute one replaces it, and one slash is put between them
where none is. -/
def join (base path : String) : String :=
  if isAbsolute path then path
  else if base.isEmpty || base.toList.getLast? == some '/' then base ++ path
  else base ++ "/" ++ path

inductive Component
  | root
  | here
  | up
  | name (text : List Char)
  deriving DecidableEq, Repr

def components (path : String) : List Component :=
  let parts := path.toList.splitOn '/'
  let start : List Component :=
    if isAbsolute path then [.root]
    else if parts.head? == some ['.'] then [.here]
    else []
  start ++ parts.filterMap fun part =>
    if part == [] || part == ['.'] then none
    else if part == ['.', '.'] then some .up
    else some (.name part)

/-- The last component, if it is a name. -/
def fileName? (path : String) : Option (List Char) :=
  match (components path).getLast? with
  | some (.name text) => some text
  | _ => none

/-- The file name without the last dot that is not its first character, and what follows it. -/
def fileStem? (path : String) : Option String :=
  (fileName? path).map fun name =>
    match Cut.atLast? '.' name with
    | some ([], _) | none => String.ofList name
    | some (stem, _) => String.ofList stem

/-- Where the parts of a path end that count as components. -/
def partEnds (start : Nat) : List (List Char) → List Nat
  | [] => []
  | part :: rest =>
    let stop := start + part.length
    if part == [] || part == ['.'] then partEnds (stop + 1) rest
    else stop :: partEnds (stop + 1) rest

def componentEnds (path : String) : List Nat :=
  let parts := path.toList.splitOn '/'
  let first := if isAbsolute path || parts.head? == some ['.'] then [1] else []
  first ++ partEnds 0 parts

/-- The path without its last component; the root has none to lose. -/
def parent? (path : String) : Option String :=
  match (componentEnds path).reverse with
  | [] => none
  | [_] => if isAbsolute path then none else some ""
  | _ :: stop :: _ => some (String.ofList (path.toList.take stop))

/-- A path without its last components, one more at a time, at most `fuel` times. -/
def ancestorsWithin : Nat → String → List String
  | 0, _ => []
  | fuel + 1, path =>
    match parent? path with
    | none => []
    | some above => above :: ancestorsWithin fuel above

/-- A path without its last component, without its last two, and so on. -/
def ancestors (path : String) : List String :=
  ancestorsWithin (componentEnds path).length path

end DaemonDialogue.Path
