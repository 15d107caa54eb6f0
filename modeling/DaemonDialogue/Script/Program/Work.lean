import DaemonDialogue.Script.Act
import DaemonDialogue.Script.Program.Cat
import DaemonDialogue.Script.Program.LineProgram
import DaemonDialogue.Script.Program.Numbers

/-!
# Programs that go on

Programs read their sources one after the other, through descriptors of their own. A
program waits while there is nothing to read yet, or no room for what it writes.
-/

namespace DaemonDialogue.Script.Program

open Act

def protest (name t : Text) : Act Unit := report (complaint name t)

/-- Ends a program whose output is refused. -/
def giveUp (name : Text) (why : String) : Act Unit := do
  protest name ("write error: ".toList ++ why.toList)
  die (.code 1)

def conclude (name : Text) (r : Result) : Act Unit := do
  report r.complaints
  match ← put 1 (Text.toBytes r.output) with
  | none => die (.code r.status)
  | some why => giveUp name why

def target? (descriptor : Nat) : Act (Option Target) := do
  let s ← get
  return ((s.self.opening? descriptor).bind s.machine.opening?).map (·.target)

def waitForRoom (descriptor : Nat) : Act Unit := do
  match ← target? descriptor with
  | some (.writeEnd pipe) =>
    let m ← machine
    if m.isFull pipe && m.hasReader pipe then block
  | _ => pure ()

/-- The first descriptor for files of a program. -/
def firstDescriptor : Nat := 3

/-- Opens a file at the lowest descriptor that is free. -/
def openAt (mode : OpenMode) (path : Text) : Act (Except SystemFault Nat) := do
  let s ← get
  match s.machine.openPath s.self mode false ⟨Text.toBytes path⟩ with
  | .error f => return .error f
  | .ok (m, id) =>
    let used := s.self.descriptors.map (·.1)
    let free := ((List.range (used.length + 1)).map (· + firstDescriptor)).find? fun n => !used.contains n
    let n := free.getD firstDescriptor
    setMachine m
    modifySelf fun p => p.direct n (some id)
    return .ok n

/-- Closes a descriptor, unless it was there from the beginning. -/
def close (descriptor : Nat) : Act Unit := do
  if firstDescriptor ≤ descriptor then
    modifySelf fun p => p.direct descriptor none
    commit
    modify fun s => { s with machine := s.machine.sweep }

/-- What comes of reading on in some sources. -/
inductive Taken
  | opened (descriptor : Nat)
  | bytes (bs : List UInt8)
  | ended
  | failed (path : Text) (why : String) (wasOpen : Bool)
  | finished

/-- Reads on in some sources: at most `count` bytes, and of those at most a line if `line`. -/
def take (r : Chore.Reading) (count : Nat) (line : Bool) : Act (Taken × Chore.Reading) := do
  match r.opened, r.sources with
  | _, [] => return (.finished, r)
  | none, path :: rest =>
    if path == ['-'] then return (.opened 0, { r with opened := some 0 })
    else
      match ← openAt .read path with
      | .ok n => return (.opened n, { r with opened := some n })
      | .error f => return (.failed path f.reason false, { r with sources := rest, status := 1 })
  | some n, path :: rest =>
    let s ← get
    match s.machine.read s.self n count line with
    | (_, .nothingYet) => block
    | (m, .bytes bs) =>
      setMachine m
      return (.bytes bs, r)
    | (_, .ended) =>
      close n
      return (.ended, { r with opened := none, sources := rest })
    | (_, .refused why) =>
      close n
      return (.failed path why true, { r with opened := none, sources := rest, status := 1 })

/-- How many bytes are read at once. -/
def chunk : Nat := 65536

/-- Would a program read what it writes? -/
def meetsItself (descriptor : Nat) : Act Bool := do
  let s ← get
  match (s.self.opening? descriptor).bind s.machine.opening?, ← target? 1 with
  | some o, some (.file out) =>
    return o.target == .file out && o.offset < (s.machine.files.content out).stored.size
  | _, _ => return false

def showOn (r : Chore.Reading) (d : Chore.Display) (s : Chore.Shown) : Act Unit := do
  waitForRoom 1
  let (t, next) ← take r chunk false
  let goOn (r : Chore.Reading) (s : Chore.Shown) : Act Unit := push (.chore (.cat r d s))
  match t with
  | .opened n =>
    if ← meetsItself n then
      close n
      protest r.name (r.sources.headD [] ++ ": input file is output file".toList)
      goOn { r with sources := r.sources.drop 1, status := 1 } s
    else goOn next s
  | .bytes bs =>
    let (out, s) := Cat.feed d s bs
    match ← put 1 out with
    | none => goOn next s
    | some why => giveUp r.name why
  | .ended => goOn next s
  | .failed path why _ =>
    protest r.name (path ++ ": ".toList ++ why.toList)
    if path == ['-'] then
      protest r.name ("closing standard input: ".toList ++ why.toList)
    goOn next s
  | .finished =>
    match ← put 1 (Cat.finish s) with
    | none => die (.code r.status)
    | some why => giveUp r.name why

/-- Why a program on lines cannot read a source, in its words. -/
def unreadable (program : String) (path : Text) (why : String) (wasOpen : Bool) : Text :=
  let why := why.toList
  match program, wasOpen with
  | "head", false | "tail", false =>
    "cannot open ".toList ++ Grammar.quote path ++ " for reading: ".toList ++ why
  | "head", true | "tail", true | "uniq", true =>
    "error reading ".toList ++ Grammar.quote path ++ ": ".toList ++ why
  | "sort", false => "cannot read: ".toList ++ path ++ ": ".toList ++ why
  | "sort", true => "read failed: ".toList ++ path ++ ": ".toList ++ why
  | "tac", false => "failed to open ".toList ++ Grammar.quote path ++ " for reading: ".toList ++ why
  | "tac", true => path ++ ": read error: ".toList ++ why
  | "rev", false => "cannot open ".toList ++ path ++ ": ".toList ++ why
  | "sed", false => "can't read ".toList ++ path ++ ": ".toList ++ why
  | "sed", true => "read error on ".toList ++ path ++ ": ".toList ++ why
  | _, _ => path ++ ": ".toList ++ why

/-- The first lines of a text, how many of `count` are left, and what was not taken. -/
def firstLines : Nat → Nat → List UInt8 → List UInt8 × Nat
  | 0, left, _ => ([], left)
  | fuel + 1, left, bs =>
    if left = 0 || bs.isEmpty then ([], left)
    else
      let (line, rest) := Machine.splitLine bs
      let left := if line.getLast? == some 10 then left - 1 else left
      let (more, left) := firstLines fuel left rest
      (line ++ more, left)

/-- How many bytes are read at once where lines are counted. -/
def lineBlock : Nat := 8192

/-- Writes the beginnings of sources. -/
def headOn (r : Chore.Reading) (p : Chore.Portion) : Act Unit := do
  waitForRoom 1
  let goOn (r : Chore.Reading) (p : Chore.Portion) : Act Unit := push (.chore (.head r p))
  match r.opened with
  | some n =>
    if p.left = 0 then
      close n
      return ← goOn { r with opened := none, sources := r.sources.drop 1 } p
  | none => pure ()
  let isFile := match ← target? (r.opened.getD 0) with
    | some (.file _) => true
    | _ => false
  let count := if p.bytes then min p.left lineBlock else lineBlock
  let (t, next) ← take r count (isFile && !p.bytes)
  match t with
  | .opened _ =>
    let header := if p.headers then header p.isFirst (r.sources.headD []) else []
    match ← put 1 (Text.toBytes header) with
    | none => goOn next { p with left := p.count, isFirst := false }
    | some why => giveUp r.name why
  | .bytes bs =>
    let (out, left) := if p.bytes then (bs, p.left - bs.length) else firstLines (bs.length + 1) p.left bs
    match ← put 1 out with
    | none => goOn next { p with left }
    | some why => giveUp r.name why
  | .ended => goOn next p
  | .failed path why wasOpen =>
    protest r.name (unreadable "head" path why wasOpen)
    goOn next p
  | .finished => die (.code r.status)

def inputsOf (read : List Chore.Gathered) : List Input :=
  read.reverse.map fun g =>
    { name := g.name, regular := g.regular, text := Text.ofBytes g.parts.reverse.flatten }

/-- What a program on lines ends with if it needs nothing of what comes. -/
def early? (program : String) (arguments : List Text) (read : List Chore.Gathered) : Option Result := do
  let l ← LineProgram.find? program
  match l.grammar.parse arguments with
  | .ok p => if l.stops p then l.early p (inputsOf read) else none
  | .error _ => none

/-- Does a program on lines keep to itself which sources it cannot read? -/
def isSilent (program : String) (arguments : List Text) : Bool :=
  (LineProgram.find? program).any fun l =>
    match l.grammar.parse arguments with
    | .ok p => l.silent p
    | .error _ => false

def concludeLines (program : String) (arguments : List Text) (r : Chore.Reading)
    (read : List Chore.Gathered) : Act Unit := do
  match LineProgram.find? program with
  | none => die (.code 1)
  | some l =>
    match l.grammar.parse arguments with
    | .error e => conclude r.name { complaints := l.complains r.name e, status := l.misuseStatus }
    | .ok p =>
      let inputs := inputsOf read
      let result := l.write p inputs
      let result :=
        { result with status := if r.status = 0 then result.status else max result.status l.failureStatus }
      let followed := if program == "tail" && (p.has 'f' || p.has 'F') then p.operands.getLast? else none
      match followed with
      | none => conclude r.name result
      | some path =>
        match ← put 1 (Text.toBytes result.output), ← openAt .read path with
        | some why, _ => giveUp r.name why
        | none, .error _ => die (.code 1)
        | none, .ok n =>
          let size := (inputs.getLast?.map fun i => i.text.length).getD 0
          let s ← get
          let m := match s.self.opening? n with
            | some id =>
              match s.machine.opening? id with
              | some o => s.machine.putOpening id { o with offset := size }
              | none => s.machine
            | none => s.machine
          setMachine m
          push (.chore (.follow n))

def gatherOn (program : String) (arguments : List Text) (r : Chore.Reading)
    (read : List Chore.Gathered) : Act Unit := do
  let (t, next) ← take r chunk false
  let goOn (r : Chore.Reading) (read : List Chore.Gathered) : Act Unit :=
    push (.chore (.gather program arguments r read))
  match t, read with
  | .opened n, read =>
    let regular := match ← target? n with
      | some (.file _) => true
      | _ => false
    goOn next ({ name := r.sources.headD [], regular } :: read)
  | .bytes bs, g :: before =>
    let read := { g with parts := bs :: g.parts } :: before
    match early? program arguments read with
    | some result => conclude r.name result
    | none => goOn next read
  | .bytes _, [] | .ended, _ => goOn next read
  | .failed path why wasOpen, read =>
    if !isSilent program arguments then protest r.name (unreadable program path why wasOpen)
    if program == "sort" then die (.code 2)
    else if program == "sed" && wasOpen then die (.code 4)
    else goOn next (if wasOpen && program != "wc" then read.drop 1 else read)
  | .finished, read => concludeLines program arguments r read

/-- Writes what is added to a file. -/
def followOn (descriptor : Nat) : Act Unit := do
  let s ← get
  match s.machine.read s.self descriptor chunk false with
  | (m, .bytes bs) =>
    setMachine m
    match ← put 1 bs with
    | none => push (.chore (.follow descriptor))
    | some why => giveUp "tail".toList why
  | _ => Act.block

/-- Writes input to the output and to files. -/
def teeOn (descriptors : List Nat) (status : Nat) : Act Unit := do
  waitForRoom 1
  let s ← get
  match s.machine.read s.self 0 chunk false with
  | (_, .nothingYet) => Act.block
  | (m, .bytes bs) =>
    setMachine m
    let refused ← (1 :: descriptors).filterMapM fun n => put n bs
    push (.chore (.tee descriptors (if refused.isEmpty then status else 1)))
  | _ => die (.code status)

/-- How many numbers are written at once. -/
def numbersAtOnce : Nat := 200

/-- Writes the next numbers of a series. -/
def countOn (name : Text) (s : Chore.Series) : Act Unit := do
  waitForRoom 1
  let (t, s) := Sequence.take numbersAtOnce s
  match ← put 1 (Text.toBytes t) with
  | none => if s.left = 0 then die (.code 0) else push (.chore (.series name s))
  | some why => giveUp name why

def blockTime : Nat := 20000

def repeatOn (line : List UInt8) : Act Unit := do
  waitForRoom 1
  match ← put 1 line with
  | none =>
    let now := (← machine).clock
    modifySelf fun p => { p with ready := now + blockTime }
    push (.chore (.repeat_ line))
  | some why => giveUp "yes".toList why

def sleepOn (wakes : Option Nat) : Act Unit := do
  let now := (← machine).clock
  if wakes.any (· ≤ now) then die (.code 0) else Act.block

def timedOut : Nat := 124

/-- Sends a signal at the end of the time that a command was given. -/
def runOut (l : Chore.Limit) : Act Unit := do
  if l.tells then
    let sent := (Signal.names[l.signal.number]?.getD "").toList
    protest l.name ("sending signal ".toList ++ sent ++ " to command ".toList ++ Grammar.quote l.command)
  let m ← machine
  let p ← self
  let others := if l.alone then [] else (m.descendants p.pid).filter (· != l.child)
  (l.child :: others).forM fun pid => do
    let _ ← signal pid l.signal
  if l.signal == .kill && !l.alone then die (.signal .kill)
  else
    let ends := l.grace.map (m.clock + ·)
    push (.chore (.limit { l with ends, signal := .kill, grace := none, sent := true }))

/-- Waits for a child that is given some time. -/
def limitOn (l : Chore.Limit) : Act Unit := do
  let m ← machine
  match (m.process? l.child).bind (·.ended) with
  | some e =>
    let wasKilled : Bool := e == .signal .kill
    if l.sent then die (.code (if l.keepsStatus || wasKilled then e.number else timedOut))
    else die e
  | none => if l.ends.any (· ≤ m.clock) then runOut l else Act.block

def workOn : Chore → Act Unit
  | .cat r d s => showOn r d s
  | .head r p => headOn r p
  | .gather program arguments r read => gatherOn program arguments r read
  | .follow n => followOn n
  | .tee ns status => teeOn ns status
  | .series name s => countOn name s
  | .repeat_ line => repeatOn line
  | .sleep wakes => sleepOn wakes
  | .limit l => limitOn l

end DaemonDialogue.Script.Program
