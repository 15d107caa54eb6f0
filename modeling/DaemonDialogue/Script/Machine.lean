import DaemonDialogue.Script.Process

/-!
# The machine that scripts run on

A machine has files, a clock, processes and pipes. Bytes wait in a pipe until they are
read; a pipe without writers ends, and one without readers breaks. Descriptors that were
copied from each other share a place in their file.
-/

namespace DaemonDialogue.Script

/-- Bytes on their way, those at the back the other way around; one end may be held from
outside the machine. -/
structure Pipe where
  front : List UInt8 := []
  back : List UInt8 := []
  size : Nat := 0
  readOutside : Bool := false
  writtenOutside : Bool := false
  deriving Repr, Inhabited

namespace Pipe

def isEmpty (p : Pipe) : Bool := p.front.isEmpty && p.back.isEmpty

def bytes (p : Pipe) : List UInt8 := if p.back.isEmpty then p.front else p.front ++ p.back.reverse

def add (p : Pipe) (bs : List UInt8) : Pipe :=
  { p with back := bs.reverse ++ p.back, size := p.size + bs.length }

def withBytes (p : Pipe) (bs : List UInt8) : Pipe := { p with front := bs, back := [], size := bs.length }

/-- The pipe without its first bytes, which are so many. -/
def drop (p : Pipe) (count : Nat) : Pipe :=
  { p with front := p.bytes.drop count, back := [], size := p.size - count }

def takeAll (p : Pipe) : List UInt8 × Pipe := (p.bytes, p.withBytes [])

end Pipe

inductive Target
  | readEnd (pipe : Nat)
  | writeEnd (pipe : Nat)
  | file (id : Nat)
  | directory
  | device (d : File.Device)
  deriving DecidableEq, Repr, Inhabited

/-- Something that was opened, and the place within it. -/
structure Opening where
  target : Target
  offset : Nat := 0
  reads : Bool := false
  writes : Bool := false
  appends : Bool := false
  deriving Repr, Inhabited

/-- Files, processes, openings and pipes at some time, in nanoseconds. -/
structure Machine where
  files : File.Tree := {}
  clock : Nat := 0
  processes : List Process := []
  openings : List (Nat × Opening) := []
  pipes : List (Nat × Pipe) := []
  nextPid : Nat := 1000
  nextOpening : Nat := 0
  nextPipe : Nat := 0
  deriving Inhabited

namespace Machine

def process? (m : Machine) (pid : Nat) : Option Process :=
  m.processes.find? fun p => p.pid == pid

def put (m : Machine) (p : Process) : Machine :=
  { m with processes := m.processes.map fun q => if q.pid == p.pid then p else q }

def add (m : Machine) (p : Process) : Machine :=
  { m with processes := m.processes ++ [p], nextPid := m.nextPid + 1 }

/-- The machine without a process whose end is known to the one that waited for it. -/
def reap (m : Machine) (pid : Nat) : Machine :=
  { m with processes := m.processes.filter fun p => p.pid != pid }

def pipe (m : Machine) (id : Nat) : Pipe := (m.pipes.lookup id).getD {}

def putPipe (m : Machine) (id : Nat) (p : Pipe) : Machine :=
  { m with pipes := m.pipes.map fun e => if e.1 == id then (id, p) else e }

def addPipe (m : Machine) (p : Pipe) : Machine × Nat :=
  ({ m with pipes := (m.nextPipe, p) :: m.pipes, nextPipe := m.nextPipe + 1 }, m.nextPipe)

def open_ (m : Machine) (o : Opening) : Machine × Nat :=
  ({ m with openings := (m.nextOpening, o) :: m.openings, nextOpening := m.nextOpening + 1 },
    m.nextOpening)

def opening? (m : Machine) (id : Nat) : Option Opening := m.openings.lookup id

def putOpening (m : Machine) (id : Nat) (o : Opening) : Machine :=
  { m with openings := m.openings.map fun e => if e.1 == id then (id, o) else e }

/-- The machine without openings that no process holds any more, and without pipes that have no
ends left. -/
def sweep (m : Machine) : Machine :=
  let held := m.processes.flatMap Process.openings
  let openings := m.openings.filter fun e => held.contains e.1
  let used (id : Nat) : Bool := openings.any fun e => e.2.target == .readEnd id || e.2.target == .writeEnd id
  { m with
    openings
    pipes := m.pipes.filter fun e => e.2.readOutside || e.2.writtenOutside || used e.1 }

def holds (m : Machine) (t : Target) : Bool :=
  let ids := m.openings.filterMap fun e => if e.2.target == t then some e.1 else none
  !ids.isEmpty && m.processes.any fun p => p.openings.any ids.contains

def hasWriter (m : Machine) (id : Nat) : Bool :=
  (m.pipe id).writtenOutside || m.holds (.writeEnd id)

def hasReader (m : Machine) (id : Nat) : Bool :=
  (m.pipe id).readOutside || m.holds (.readEnd id)

def filesOf (m : Machine) (p : Process) : File.Tree := { m.files with workingDir := p.directory }

def setFiles (m : Machine) (files : File.Tree) : Machine :=
  { m with files := { files with workingDir := m.files.workingDir } }

/-- How many bytes wait in a pipe at most, if it is read within the machine. -/
def pipeSize : Nat := 65536

def isFull (m : Machine) (id : Nat) : Bool :=
  let p := m.pipe id
  !p.readOutside && pipeSize ≤ p.size

inductive Written
  | done
  | broken
  | refused (why : String)
  deriving DecidableEq, Repr

def writeTo (m : Machine) (id : Nat) (bs : List UInt8) : Machine × Written :=
  match m.opening? id with
  | none => (m, .refused "Bad file descriptor")
  | some o =>
    if !o.writes then (m, .refused "Bad file descriptor")
    else
      match o.target with
      | .writeEnd pipe =>
        if m.hasReader pipe then (m.putPipe pipe ((m.pipe pipe).add bs), .done) else (m, .broken)
      | .file file =>
        let c := m.files.content file
        let offset := if o.appends then c.stored.size else o.offset
        let files := m.files.setContent file (c.overwrite offset bs)
        (({ m with files } : Machine).putOpening id { o with offset := offset + bs.length }, .done)
      | .device .full => (m, .refused "No space left on device")
      | _ => (m, .done)

def write (m : Machine) (p : Process) (descriptor : Nat) (bs : List UInt8) : Machine × Written :=
  match p.opening? descriptor with
  | some id => m.writeTo id bs
  | none => (m, .refused "Bad file descriptor")

inductive Reading
  | bytes (bs : List UInt8)
  | ended
  | nothingYet
  | refused (why : String)
  deriving DecidableEq, Repr

/-- Bytes up to the end of a line, at most some, and the rest. -/
def splitLine (bs : List UInt8) : List UInt8 × List UInt8 :=
  match bs.dropWhile (· != 10) with
  | [] => (bs, [])
  | feed :: rest => (bs.takeWhile (· != 10) ++ [feed], rest)

/-- The first bytes, at most `count` of them and at most a line. -/
def lineWithin : Nat → List UInt8 → List UInt8
  | 0, _ | _, [] => []
  | count + 1, b :: rest => if b == 10 then [b] else b :: lineWithin count rest

/-- Reads from an opening: at most `count` bytes, and of those at most a line if `line`. -/
def readFrom (m : Machine) (id : Nat) (count : Nat) (line : Bool) : Machine × Reading :=
  match m.opening? id with
  | none => (m, .refused "Bad file descriptor")
  | some o =>
    if !o.reads then (m, .refused "Bad file descriptor")
    else
      match o.target with
      | .readEnd pipe =>
        let p := m.pipe pipe
        if p.isEmpty then (m, if m.hasWriter pipe then .nothingYet else .ended)
        else
          let taken := if line then lineWithin count p.bytes else p.bytes.take count
          (m.putPipe pipe (p.drop taken.length), .bytes taken)
      | .file file =>
        let c := m.files.content file
        let taken := if line then c.line o.offset count else c.part o.offset count
        if taken.isEmpty then (m, .ended)
        else (m.putOpening id { o with offset := o.offset + taken.length }, .bytes taken)
      | .directory => (m, .refused "Is a directory")
      | .device .zero | .device .full => (m, .bytes (List.replicate (min count 4096) 0))
      | _ => (m, .ended)

def read (m : Machine) (p : Process) (descriptor count : Nat) (line : Bool) : Machine × Reading :=
  match p.opening? descriptor with
  | some id => m.readFrom id count line
  | none => (m, .refused "Bad file descriptor")

/-- Opens what a path leads to, the way a redirection asks for it; `fresh` refuses a file that is
there. -/
def openPath (m : Machine) (p : Process) (mode : OpenMode) (fresh : Bool) (path : File.Pathname) :
    Except SystemFault (Machine × Nat) := do
  let files := m.filesOf p
  let o : Opening :=
    { target := .directory, reads := mode == .read || mode == .readWrite, writes := mode != .read
      appends := mode == .append }
  let (files, entry) ←
    match mode with
    | .read => do
      let entry ← files.find path
      pure (files, entry)
    | _ => files.openToWrite path
  match entry with
  | .directory _ => return m.open_ o
  | .socket _ => .error .noDevice
  | .device (.descriptor n) =>
    match (p.opening? n).bind m.opening? with
    | none => .error .notFound
    | some old => return m.open_ { o with target := old.target }
  | .device .terminal => .error .noDevice
  | .device d => return m.open_ { o with target := .device d }
  | .file id =>
    if fresh && (m.filesOf p).contains path then .error .exists_
    else
      let empties := mode == .write || mode == .overwrite
      let files := if empties then files.setContent id ((files.content id).withBytes []) else files
      return (m.setFiles files).open_ { o with target := .file id }

/-- The processes that a process has started, that those have started, and so on. -/
def descendants (m : Machine) (pid : Nat) : List Nat :=
  let found := m.processes.foldl (fun (found : List Nat) p =>
    if found.contains p.parent then p.pid :: found else found) [pid]
  found.dropLast

/-- Ends a process, which its parent may have asked to be told of. -/
def endProcess (m : Machine) (p : Process) (status : ExitStatus) : Machine :=
  let m := (m.put (p.end_ status)).sweep
  match m.process? p.parent with
  | some q =>
    if (q.shell.trap? 17).any fun a => !a.isEmpty then
      m.put { q with pending := if q.pending.contains 17 then q.pending else 17 :: q.pending }
    else m
  | none => m

def signal (m : Machine) (pid : Nat) (s : Signal) : Machine × Bool :=
  match m.process? pid with
  | none => (m, false)
  | some p =>
    if p.ended.isSome || s.number == 0 then (m, true)
    else if s.number == 18 && (p.shell.trap? 18).isNone then (m.put { p with paused := false }, true)
    else
      let p := if s.number == 18 then { p with paused := false } else p
      if !s.isFinal && p.ignores s.number then (m.put p, true)
      else
        match if s.isFinal then none else p.shell.trap? s.number with
        | some _ =>
          let pending := if p.pending.contains s.number then p.pending else s.number :: p.pending
          (m.put { p with pending }, true)
        | none =>
          if s.isHarmless then (m.put p, true)
          else if s.isPause then (m.put { p with paused := true }, true)
          else (m.endProcess { p with paused := false } (.signal s), true)
end Machine
end DaemonDialogue.Script
