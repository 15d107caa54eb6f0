import DaemonDialogue.File.Fault
import DaemonDialogue.File.Path
import DaemonDialogue.Text.Utf8

/-!
# Trees of files

Directories, and what has a name in them. A path is followed name by name: everything
before its last name has to be a directory, what the last one stands for may be missing.
The content of a file is kept apart from its names, so it stays while a name goes.
-/

namespace DaemonDialogue

namespace File

abbrev Name := List UInt8

/-- The names that lead to something from the root. -/
abbrev Place := List Name

/-- A path as the system takes it. -/
structure Pathname where
  bytes : List UInt8
  deriving DecidableEq, Repr, Inhabited

instance : Coe String Pathname := ⟨fun path => ⟨Utf8.encode path⟩⟩

/-- What is not kept in files but made up on the spot. -/
inductive Device
  | null
  | zero
  | full
  | terminal
  | descriptor (number : Nat)
  deriving DecidableEq, Repr, Inhabited

/-- What a name stands for. A file is given by the number of its content, a socket by that
of who listens. -/
inductive Entry
  | directory (entries : List (Name × Entry))
  | file (id : Nat)
  | socket (listener : Nat)
  | device (device : Device)
  deriving Repr, Inhabited

structure Content where
  stored : Array UInt8 := #[]
  executable : Bool := false
  deriving DecidableEq, Repr, Inhabited

namespace Content

def bytes (c : Content) : List UInt8 := c.stored.toList

def withBytes (c : Content) (bs : List UInt8) : Content := { c with stored := bs.toArray }

/-- The bytes from an offset on, at most so many. -/
def part (c : Content) (offset count : Nat) : List UInt8 :=
  (c.stored.extract offset (offset + count)).toList

/-- The bytes from an offset on, at most so many and at most a line. -/
def line (c : Content) (offset : Nat) : Nat → List UInt8
  | 0 => []
  | count + 1 =>
    match c.stored[offset]? with
    | none => []
    | some b => if b == 10 then [b] else b :: c.line (offset + 1) count

/-- The content with bytes in place of those from an offset on; zeros fill what is between them and
the end. -/
def overwrite (c : Content) (offset : Nat) (bs : List UInt8) : Content :=
  if offset == c.stored.size then { c with stored := c.stored.appendList bs }
  else
    c.withBytes (c.bytes.take offset ++ List.replicate (offset - c.stored.size) 0 ++ bs ++
      c.bytes.drop (offset + bs.length))

end Content

/-- The entries of a tree, the contents of its files by number, the sockets on which someone
listens, and the directory that relative paths start from. -/
structure Tree where
  root : Entry := .directory []
  contents : List (Nat × Content) := []
  nextFile : Nat := 0
  listening : List Nat := []
  workingDir : Place := []
  deriving Repr, Inhabited

/-- Where a path leads: to a directory that it does not name, or to a name in a directory,
perhaps one that is not there. A slash behind the name asks for a directory. -/
inductive Spot
  | unnamed (place : Place) (entry : Entry)
  | named (above : Place) (name : Name) (entry : Option Entry) (slashed : Bool)
  deriving Repr, Inhabited

end File

namespace File.Entry

def isDirectory : Entry → Bool
  | .directory _ => true
  | _ => false

def child? : Entry → Name → Option Entry
  | .directory entries, name => entries.lookup name
  | _, _ => none

def at? (e : Entry) : Place → Option Entry
  | [] => some e
  | name :: rest => (e.child? name).bind (·.at? rest)

def replaced (entries : List (Name × Entry)) (name : Name) : Option Entry → List (Name × Entry)
  | none => entries.filter fun e => e.1 != name
  | some entry =>
    if entries.any fun e => e.1 == name then
      entries.map fun e => if e.1 == name then (name, entry) else e
    else entries ++ [(name, entry)]

/-- The entry with something else, or nothing, at a place within it. -/
def put (e : Entry) (place : Place) (new : Option Entry) : Entry :=
  match place with
  | [] => new.getD e
  | [name] =>
    match e with
    | .directory entries => .directory (replaced entries name new)
    | e => e
  | name :: rest =>
    match e with
    | .directory entries =>
      match entries.lookup name with
      | some below => .directory (replaced entries name (some (below.put rest new)))
      | none => .directory entries
    | e => e

end File.Entry

namespace File.Tree

def maxName : Nat := 255

def maxPath : Nat := 4095

def maxSocketPath : Nat := 107

def slash : UInt8 := 47
def dot : UInt8 := 46

/-- Directories gone through, the last one first, each with its name. -/
abbrev Trail := List (Name × Entry)

def current (t : Tree) : Trail → Entry
  | [] => t.root
  | (_, e) :: _ => e

def placeOf (trail : Trail) : Place := (trail.map (·.1)).reverse

/-- Goes on along some names; the last one may stand for nothing. -/
def walk (t : Tree) (slashed : Bool) : Trail → List Name → Except SystemFault Spot
  | trail, [] => .ok (.unnamed (placeOf trail) (t.current trail))
  | trail, name :: rest =>
    if name = [dot] then walk t slashed trail rest
    else if name = [dot, dot] then walk t slashed (trail.drop 1) rest
    else if maxName < name.length then .error .nameTooLong
    else
      match rest, (t.current trail).child? name with
      | [], found => .ok (.named (placeOf trail) name found slashed)
      | _, none => .error .notFound
      | rest, some (.directory entries) =>
        walk t slashed ((name, .directory entries) :: trail) rest
      | _, some _ => .error .notADirectory

def trailTo (t : Tree) : Trail → Place → Option Trail
  | trail, [] => some trail
  | trail, name :: rest => do trailTo t ((name, ← (t.current trail).child? name) :: trail) rest

def locate (t : Tree) (path : Pathname) : Except SystemFault Spot :=
  if path.bytes.contains 0 then .error .nulInPath
  else if path.bytes.isEmpty then .error .notFound
  else if maxPath < path.bytes.length then .error .nameTooLong
  else
    let names := (path.bytes.splitOn slash).filter fun name => !name.isEmpty
    let slashed := path.bytes.getLast? == some slash
    if path.bytes.head? == some slash then t.walk slashed [] names
    else
      match t.trailTo [] t.workingDir with
      | some trail => t.walk slashed trail names
      | none => .error .notFound

def put (t : Tree) (place : Place) (entry : Option Entry) : Tree :=
  { t with root := t.root.put place entry }

def content (t : Tree) (id : Nat) : Content := (t.contents.lookup id).getD {}

def setContent (t : Tree) (id : Nat) (c : Content) : Tree :=
  { t with contents := (id, c) :: t.contents.filter fun e => e.1 != id }

def resolve (t : Tree) (path : Pathname) : Except SystemFault (Place × Entry) := do
  match ← t.locate path with
  | .unnamed place entry => return (place, entry)
  | .named _ _ none _ => .error .notFound
  | .named above name (some entry) slashed =>
    if slashed && !entry.isDirectory then .error .notADirectory
    else return (above ++ [name], entry)

def find (t : Tree) (path : Pathname) : Except SystemFault Entry :=
  (t.resolve path).map (·.2)

def contains (t : Tree) (path : Pathname) : Bool :=
  (t.find path).isOk

def isDirectory (t : Tree) (path : Pathname) : Bool :=
  match t.find path with
  | .ok entry => entry.isDirectory
  | .error _ => false

def read (t : Tree) (path : Pathname) : Except SystemFault (List UInt8) := do
  match ← t.find path with
  | .file id => return (t.content id).bytes
  | .directory _ => .error .isADirectory
  | .socket _ => .error .noDevice
  | .device _ => return []

def addFile (t : Tree) (place : Place) (c : Content) : Tree × Nat :=
  ({ t.put place (some (.file t.nextFile)) with
    contents := (t.nextFile, c) :: t.contents, nextFile := t.nextFile + 1 }, t.nextFile)

/-- Opens what is to be written to; a file that is not there is made. -/
def openToWrite (t : Tree) (path : Pathname) : Except SystemFault (Tree × Entry) := do
  match ← t.locate path with
  | .unnamed .. => .error .isADirectory
  | .named above name found slashed =>
    if slashed then .error .isADirectory
    else
      match found with
      | some (.directory _) => .error .isADirectory
      | some (.socket _) => .error .noDevice
      | some entry => return (t, entry)
      | none =>
        let (t, id) := t.addFile (above ++ [name]) {}
        return (t, .file id)

def write (t : Tree) (path : Pathname) (bytes : List UInt8) : Except SystemFault Tree := do
  match ← t.openToWrite path with
  | (t, .file id) => return t.setContent id ((t.content id).withBytes bytes)
  | (t, _) => return t

def createDirectory (t : Tree) (path : Pathname) : Except SystemFault Tree := do
  match ← t.locate path with
  | .unnamed .. | .named _ _ (some _) _ => .error .exists_
  | .named above name none _ => return t.put (above ++ [name]) (some (.directory []))

/-- Makes a directory unless it is there. -/
def ensureDirectory (t : Tree) (path : Pathname) : Except SystemFault Tree :=
  match t.createDirectory path with
  | .ok t => .ok t
  | .error fault => if t.isDirectory path then .ok t else .error fault

/-- Makes the first directory of some, each within the next; only if it cannot be made because
another is missing are the others made first. -/
def createChain : List String → Tree → Tree × Except SystemFault Unit
  | [], t => (t, .ok ())
  | path :: above, t =>
    if path.isEmpty then (t, .ok ())
    else
      match t.ensureDirectory path with
      | .ok t => (t, .ok ())
      | .error .notFound =>
        match createChain above t with
        | (t, .error fault) => (t, .error fault)
        | (t, .ok ()) =>
          match t.ensureDirectory path with
          | .ok t => (t, .ok ())
          | .error fault => (t, .error fault)
      | .error fault => (t, .error fault)

/-- Makes a directory and all that are missing above it. What was made stays even where not all
could be. -/
def createDirectories (t : Tree) (path : String) : Tree × Except SystemFault Unit :=
  createChain (path :: Path.ancestors path) t

/-- Makes a file and the directories above it, as far as that is possible. -/
def place (t : Tree) (path : String) (bytes : List UInt8) : Tree :=
  match t.createDirectories ((Path.parent? path).getD "") with
  | (t, .error _) => t
  | (t, .ok ()) => (t.write path bytes).toOption.getD t

def removeFile (t : Tree) (path : Pathname) : Except SystemFault Tree := do
  match ← t.locate path with
  | .unnamed .. => .error .isADirectory
  | .named _ _ none _ => .error .notFound
  | .named above name (some entry) slashed =>
    if entry.isDirectory then .error .isADirectory
    else if slashed then .error .notADirectory
    else return t.put (above ++ [name]) none

def removeAll (t : Tree) (path : Pathname) : Tree :=
  match t.locate path with
  | .ok (.named above name (some _) _) => t.put (above ++ [name]) none
  | _ => t

def tooLongForSocket (path : Pathname) : Bool :=
  maxSocketPath < path.bytes.length

def bind (t : Tree) (path : Pathname) (listener : Nat) : Except SystemFault Tree := do
  if path.bytes.contains 0 then .error .nulInSocketPath
  else if tooLongForSocket path then .error .socketPathTooLong
  else
    match ← t.locate path with
    | .unnamed .. | .named _ _ (some _) _ => .error .addressInUse
    | .named _ _ none true => .error .notFound
    | .named above name none false =>
      return { t.put (above ++ [name]) (some (.socket listener)) with
        listening := listener :: t.listening }

def connect (t : Tree) (path : Pathname) : Except SystemFault Nat := do
  if path.bytes.isEmpty then .error .invalidArgument
  else if path.bytes.contains 0 then .error .nulInSocketPath
  else if tooLongForSocket path then .error .socketPathTooLong
  else
    match ← t.find path with
    | .socket listener =>
      if t.listening.contains listener then return listener else .error .refused
    | _ => .error .refused

/-- The same tree where nobody listens on a socket any more. -/
def unlisten (t : Tree) (listener : Nat) : Tree :=
  { t with listening := t.listening.filter (· != listener) }

end File.Tree
end DaemonDialogue
