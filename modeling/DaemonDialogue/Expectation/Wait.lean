import DaemonDialogue.Expectation.Match

/-!
# Waiting for output

A wait polls a stream until an expectation is decided or its time is over. Only a
literal text that was found moves the cursor. Others may write to the stream between
any two steps of a wait; so it reads whether the stream has ended before it takes the
text in which a pattern is looked for.
-/

namespace DaemonDialogue.Match

variable {σ : Type}

/-- Surroundings in which nothing happens but the passing of time. -/
def stillness : Surroundings Nat where
  now t := t
  sleep span t := t + max span.nanos 1

/-- How a wait went: its result, what its looks saw, the last first, and what it leaves. -/
structure Wait (ω σ : Type) where
  result : Except Failure Match
  seen : List ω
  state : σ

/-- What a look for a pattern sees of a stream: whether it has ended, and then its text. -/
structure Glimpse where
  ended : Bool
  history : String
  deriving DecidableEq, Repr

section

variable (world : Surroundings σ) (stream : σ → Buffer) (channel : Channel)

/-- Reads whether a stream has ended, and its text a moment later. -/
def glimpse (s : σ) : Glimpse × σ :=
  let ended := (stream s).closed
  let s := world.pause s
  (⟨ended, (stream s).snapshot⟩, s)

/-- One look for a text behind a cursor. Once it is decided the text to report is read. -/
def lookLiteral (text : String) :
    (List Buffer × Cursor) × σ → Option (Except Failure Match) × (List Buffer × Cursor) × σ
  | ((seen, c), s) =>
    let seen := stream s :: seen
    match c.scan (stream s) text with
    | (.found start stop, c) =>
      let s := world.pause s
      (some (.ok ⟨channel, start, stop, (stream s).textBetween start stop⟩), (seen, c), s)
    | (.closed, c) =>
      let s := world.pause s
      (some (.error (.streamClosed channel text (stream s).snapshot)), (seen, c), s)
    | (.pending, c) => (none, (seen, c), s)

/-- Waits for a literal text behind a cursor, and keeps what it sees. -/
def watchLiteral (text : String) (timeout interval : Span) (c : Cursor) (s : σ) :
    Wait Buffer (Cursor × σ) :=
  let look := lookLiteral world stream channel text
  match Polling.poll (world.beside _) look timeout interval (([], c), s) with
  | (some result, (seen, c), s) => ⟨result, seen, c, s⟩
  | (none, (seen, c), s) =>
    let s := world.pause s
    ⟨.error (.expectTimeout channel text (stream s).snapshot timeout), seen, c, s⟩

def lookMatch (m : Matcher) (p : List Glimpse × σ) :
    Option (Except Failure Match) × List Glimpse × σ :=
  let (g, s) := glimpse world stream p.2
  (lookPattern channel m g.ended g.history, g :: p.1, s)

/-- Waits for a match anywhere in a stream, and keeps what it sees. -/
def watchPattern (m : Matcher) (timeout interval : Span) (s : σ) : Wait Glimpse σ :=
  let look := lookMatch world stream channel m
  match Polling.poll (world.beside _) look timeout interval ([], s) with
  | (some result, seen, s) => ⟨result, seen, s⟩
  | (none, seen, s) =>
    let history := (seen.head?.map (·.history)).getD ""
    ⟨.error (.expectTimeout channel m.describe history timeout), seen, s⟩

def awaitLiteral (text : String) (timeout interval : Span) (c : Cursor) (s : σ) :
    Except Failure Match × Cursor × σ :=
  let wait := watchLiteral world stream channel text timeout interval c s
  (wait.result, wait.state)

def awaitPattern (p : Pattern) (timeout interval : Span) (s : σ) : Except Failure Match × σ :=
  let wait := watchPattern world stream channel p.matcher timeout interval s
  (wait.result, wait.state)

end

def occurs (p : Pattern) (b : Buffer) : Bool :=
  (p.find? b.snapshot).isSome

end DaemonDialogue.Match
