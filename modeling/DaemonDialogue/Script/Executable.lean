import DaemonDialogue.File.Tree
import DaemonDialogue.Script.Text

/-!
# Files that can be run

A file is run if it may be: a program by the name that it holds behind a mark, a script by
the interpreter in its first line. Names without a slash are looked for in some directories.
-/

namespace DaemonDialogue.Script

/-- What running a file comes to. -/
inductive Executable
  | program (name : Text)
  | interpreted (by_ : Text) (argument : Option Text)
  deriving Repr, Inhabited

namespace Executable

def mark : List UInt8 := [0x7f, 0x45, 0x4c, 0x46]

def content (name : String) : File.Content :=
  { stored := (mark ++ name.toUTF8.toList).toArray, executable := true }

def isBlank (c : Char) : Bool := c == ' ' || c == '\t'

/-- The interpreter and its argument in the first line of a script. -/
def ofFirstLine (t : Text) : Executable :=
  let line := (t.takeWhile (· != '\n')).dropWhile isBlank
  let name := line.takeWhile fun c => !isBlank c
  let rest := (line.dropWhile fun c => !isBlank c).dropWhile isBlank
  let argument := (rest.reverse.dropWhile isBlank).reverse
  .interpreted name (if argument.isEmpty then none else some argument)

def atPath (files : File.Tree) (path : Text) : Except SystemFault Executable := do
  match ← files.find ⟨Text.toBytes path⟩ with
  | .file id =>
    let c := files.content id
    if !c.executable then .error .permissionDenied
    else
      match Cut.behind? mark c.bytes, c.bytes with
      | some name, _ => return .program (Text.ofBytes name)
      | none, 0x23 :: 0x21 :: rest => return ofFirstLine (Text.ofBytes rest)
      | none, _ => .error .noFormat
  | _ => .error .permissionDenied

def within (directory name : Text) : Text :=
  if directory.isEmpty then name else directory ++ '/' :: name

def candidates (path name : Text) : List Text := (Text.fields ':' path).map fun d => within d name

/-- The first file of a name in a list of directories. -/
def find (files : File.Tree) (path name : Text) : Except SystemFault Text :=
  let look : Except SystemFault Text → Text → Except SystemFault Text := fun found candidate =>
    match found, files.find ⟨Text.toBytes candidate⟩ with
    | .ok p, _ => .ok p
    | .error _, .ok (.file _) => .ok candidate
    | .error _, .ok _ => .error .permissionDenied
    | .error fault, .error _ => .error fault
  (candidates path name).foldl look (.error .notFound)

/-- What a shell says of a fault when it runs a file. -/
def reason (f : SystemFault) : Text :=
  match f with
  | .notFound | .notADirectory => "not found".toList
  | f => f.reason.toList

def failure (f : SystemFault) : Nat :=
  match f with
  | .notFound | .notADirectory | .nameTooLong => 127
  | _ => 126

end Executable
end DaemonDialogue.Script
