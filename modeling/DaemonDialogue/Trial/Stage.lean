import DaemonDialogue.Daemon.World
import DaemonDialogue.Log.Report
import DaemonDialogue.Script.Run
import DaemonDialogue.Stream.Capture

/-!
# The stage of a trial

A stage is a world whose daemons are scripts. Their output is captured whenever time
passes; what is drawn is counted, so that two runs of a trial are alike.
-/

namespace DaemonDialogue

/-- A stream of a daemon that is captured from a pipe. -/
structure Trial.Feed where
  source : CaptureSource
  pipe : Nat
  buffer : Buffer := {}
  pending : List UInt8 := []

/-- The machine that daemons run on, what is captured of them, and the log. -/
structure Trial.Stage where
  machine : Script.Machine := { files := Script.Program.files }
  feeds : List Trial.Feed := []
  ends : List Script.Machine.Ends := []
  logger : Logger
  drawn : Nat := 0

namespace Trial.Stage

def withTime (s : Stage) : Stage :=
  { s with logger := { s.logger with now := { s.logger.now with elapsedMs := s.machine.clock / 1000000 } } }

def collectFeed (s : Stage) (f : Feed) : Stage × Feed :=
  if f.buffer.closed then (s, f)
  else
    let (bytes, ended, machine) := s.machine.drain f.pipe
    let start : Capture := { buffer := f.buffer, pending := f.pending, logger := s.logger }
    let c := if bytes.isEmpty then start else start.take f.source bytes
    let c := if ended then c.finish f.source else c
    ({ s with machine, logger := c.logger }, { f with buffer := c.buffer, pending := c.pending })

def collect (s : Stage) : Stage :=
  let (s, feeds) := s.feeds.foldl (fun (s, feeds) f =>
    let (s, f) := collectFeed s f
    (s, f :: feeds)) (s.withTime, ([] : List Feed))
  { s with feeds := feeds.reverse }

def leastPause : Nat := 100000

def sleep (span : Span) (s : Stage) : Stage :=
  collect { s with machine := s.machine.runFor (max span.nanos leastPause) }

def log (level : Log.Level) (message : String) (context : List (String × String)) (s : Stage) :
    Stage :=
  let s := s.withTime
  { s with logger := s.logger.log level .harness message context }

def draw (s : Stage) : String × Stage :=
  let digits := Nat.toDigits 10 s.drawn
  let letters := digits.map fun d => Char.ofNat (d.toNat - '0'.toNat + 'a'.toNat)
  (String.ofList (List.replicate (6 - letters.length) 'a' ++ letters), { s with drawn := s.drawn + 1 })

/-- The time at which a trial begins, as it stands in names. -/
def stamp : String := "19700101_000000_000"

/-- Does a launch hold a text that no process can be given? -/
def holdsNul (l : Daemon.Launch) : Bool :=
  (l.program :: l.workingDir :: l.arguments ++ l.environment.flatMap fun v => [v.1, v.2]).any
    fun text => text.toList.contains '\x00'

def launch (l : Daemon.Launch) (s : Stage) : Except SystemFault Nat × Stage :=
  if holdsNul l then (.error (.other "nul byte found in provided data"), s)
  else
    match s.machine.launch l.workingDir l.environment (l.program :: l.arguments) with
    | .error fault => (.error fault, s)
    | .ok (machine, ends) =>
      (.ok ends.pid, { s with
        machine
        ends := ends :: s.ends
        feeds := s.feeds ++ [
          { source := ⟨.stdout, l.name, ends.pid⟩, pipe := ends.output },
          { source := ⟨.stderr, l.name, ends.pid⟩, pipe := ends.complaints }] })

def stream (pid : Nat) (channel : Channel) (s : Stage) : Buffer :=
  ((s.feeds.find? fun f => f.source.pid == pid && f.source.channel == channel).map (·.buffer)).getD {}

def input? (pid : Nat) (s : Stage) : Option Nat :=
  (s.ends.find? fun e => e.pid == pid).map (·.input)

def write (pid : Nat) (bytes : List UInt8) (s : Stage) : Except SystemFault Unit × Stage :=
  match s.input? pid with
  | none => (.error .brokenPipe, s)
  | some id =>
    match s.machine.feed id bytes with
    | (machine, true) => (.ok (), { s with machine })
    | (_, false) => (.error .brokenPipe, s)

def closeInput (pid : Nat) (s : Stage) : Stage :=
  match s.input? pid with
  | none => s
  | some id => { s with machine := s.machine.release id }

def statusOf (pid : Nat) (s : Stage) : Option ExitStatus :=
  (s.machine.process? pid).bind (·.ended)

/-- How many turns a wait lets the machine take. -/
def patience : Nat := 10000000

/-- Lets time pass until a process has ended. -/
def await (pid : Nat) (s : Stage) : Except SystemFault ExitStatus × Stage :=
  let s := collect { s with machine := s.machine.runToEnd pid patience }
  match s.statusOf pid with
  | some status => (.ok status, s)
  | none => (.error .noChild, s)

def signal (pid : Nat) (sig : Signal) (s : Stage) : Bool × Stage :=
  let (machine, sent) := s.machine.signal pid sig
  (sent, { s with machine })

/-- Ends a process at once; one that has ended already is left as it is. -/
def kill (pid : Nat) (s : Stage) : Except SystemFault Unit × Stage :=
  (.ok (), (s.signal pid .kill).2)

/-- Can something connect to an endpoint? There is no network on a stage. -/
def connects (e : Endpoint) (s : Stage) : Bool :=
  match e with
  | .ipc path => (s.machine.files.connect path).isOk
  | .tcp _ _ => false

def world : Daemon.World Stage where
  now s := s.machine.clock
  sleep := sleep
  log := log
  count level s := s.logger.count level
  summarize s := { s with logger := s.logger.printSummary }
  files s := s.machine.files
  setFiles files s := { s with machine := { s.machine with files } }
  draw := draw
  stamp _ := stamp
  launch := launch
  capture _ _ s := (.ok (), s)
  stream := stream
  write := write
  closeInput := closeInput
  poll pid s := (.ok (s.statusOf pid), s)
  await := await
  signal := signal
  kill := kill
  connects := connects

end Trial.Stage
end DaemonDialogue
