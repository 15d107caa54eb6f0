import DaemonDialogue.Script.Calling

/-!
# Evaluation of commands

A command is taken apart into frames. What words stand for is found on the way; where the
output of a command is asked for, a child writes it.
-/

namespace DaemonDialogue.Script.Act

/-- A pipe with both its ends opened. -/
def newPipe : Act (Nat × Nat) := do
  let (m, pipe) := (← machine).addPipe {}
  let (m, output) := m.open_ { target := .readEnd pipe, reads := true }
  let (m, input) := m.open_ { target := .writeEnd pipe, writes := true }
  setMachine m
  return (output, input)

/-- Forgets what nobody holds any more. -/
def tidy : Act Unit := do
  commit
  modify fun s => { s with machine := s.machine.sweep }

/-- The signals that a command in the background pays no attention to. -/
def backgroundIgnored : List Nat := [2, 3]

def openNothing : Act Nat := do
  let (m, id) := (← machine).open_ { target := .device .null, reads := true }
  setMachine m
  return id

/-- Takes the action for a signal that has come in, if there is one; it is run before what is on
top of the work. -/
def takeSignal (again : Frame) : Act Bool := do
  let p ← self
  match p.pending.mergeSort (fun a b => a ≤ b) with
  | [] => return false
  | n :: rest =>
    modifySelf fun p => { p with pending := rest }
    match p.shell.trap? n with
    | none => return false
    | some action =>
      let status := p.kept.getD p.shell.status
      pushAll [.script { strips := [⟨action, none, false⟩] }, .trapped status p.kept, again]
      modifySelf fun p => { p with kept := some status }
      return true

def setLine (line : Nat) : Act Unit := modifyShell fun sh => { sh with line }

def enterLoop : Act Unit := modifyShell fun sh => { sh with loops := sh.loops + 1 }

def leaveLoop (status : Nat) : Act Unit := modifyShell fun sh => { sh with loops := sh.loops - 1, status }

/-- Looks a program up before a pipeline that runs it begins. -/
def lookAhead : Command → Act Unit
  | .simple _ _ (w :: _) _ => do
    match Word.plain? w with
    | some name => if Text.isName name then let _ ← lookup {} name
    | none => pure ()
  | _ => pure ()

/-- How long it takes until the next stage of a pipeline is begun. -/
def stageTime : Nat := 100000

/-- Starts the stages of a pipeline, each of which reads what the one before it writes; `place`
counts those that were started. -/
def forkStages (background : Bool) (f : Flags) : List Command → Nat → Option Nat → Act (List Nat)
  | [], _, _ => return []
  | c :: rest, place, input => do
    lookAhead c
    let ends ← if rest.isEmpty then pure none else some <$> newPipe
    let nothing ← if background && place = 0 then some <$> openNothing else pure none
    let change (p : Process) : Process :=
      let p := { p with ready := p.ready + place * stageTime }
      let p := match nothing.or input with
        | some source => p.direct 0 (some source)
        | none => p
      match ends with
      | some (_, output) => p.direct 1 (some output)
      | none => p
    let pid ← fork [.evaluate c f] change (if background then backgroundIgnored else [])
    return pid :: (← forkStages background f rest (place + 1) (ends.map (·.1)))

/-- Runs the body of a subshell when its redirections are known: in a child, unless nothing comes
after it. -/
def enterSubshell (left : List Resolved) (body : Command) (background : Bool) (f : Flags) : Act Unit := do
  if !background && (← endsHere f) then push (.open_ left (.child body f))
  else
    let nothing ← if background then some <$> openNothing else pure none
    let inside : Flags := { tested := f.tested && !background, exits := true }
    let change (p : Process) : Process :=
      match nothing with
      | some _ => p.direct 0 nothing
      | none => p
    let pid ← fork [.open_ left (.child body inside)] change (if background then backgroundIgnored else [])
    tidy
    let job ← addJob [pid]
    if background then
      modifyShell fun sh => { sh with background := some pid }
      setStatus 0
    else push (.await job)

/-- Goes on when all redirections of a command are made. -/
def opened : Purpose → Act Unit
  | .call c => assignNext c (c.verdict.getD {})
  | .compound body f | .child body f => push (.evaluate body f)
  | .subshell .. => pure ()

/-- Goes on when a redirection of a command cannot be made: a special command and a subshell end with
that, and all scripts that end with a failure. -/
def refused (why : Text) (p : Purpose) : Act Unit := do
  complain why
  setStatus 2
  match p with
  | .call c => if (c.verdict.getD {}).special then raise .error
  | .child .. => raise .error
  | .compound _ f => push (.after f true)
  | .subshell .. => pure ()

/-- Makes the redirections of a command. -/
def openOn (left : List Resolved) (p : Purpose) : Act Unit := do
  match p with
  | .subshell body background f => enterSubshell left body background f
  | p =>
    match ← redirectAll (!(p matches .child ..)) left with
    | .done => opened p
    | .refused why => refused why p
    | .awaits n number left =>
      let w := ((← shell).documents.lookup number).getD []
      push (.expand w [] (.document n left p))

/-- Expands the next word of a loop over words, or begins with its rounds. -/
def nextItem (r : Round) : Act Unit := do
  match r.words with
  | w :: rest => push (.expand w [] (.item { r with words := rest }))
  | [] =>
    enterLoop
    push (.round r)

/-- Goes on with the next round of a loop over words. -/
def nextRound (r : Round) : Act Unit := do
  match r.items with
  | [] => leaveLoop r.status
  | t :: rest =>
    if ← Builtin.setVariable r.name t then
      pushAll [.evaluate r.body r.flags, .round { r with items := rest, begun := true }]

def nextPattern (s : Selection) : Act Unit := do
  match s.patterns, s.cases with
  | w :: rest, _ => push (.expand w [] (.pattern { s with patterns := rest }))
  | [], (patterns, body) :: cases =>
    match patterns with
    | w :: rest => push (.expand w [] (.pattern { s with patterns := rest, body, cases }))
    | [] => push (.expand [] [] (.pattern { s with body, cases }))
  | [], [] => setStatus 0

def dispatch (c : Command) (f : Flags) : Act Unit := do
  let asked : Flags := { tested := true }
  let inside : Flags := { tested := f.tested }
  match c with
  | .simple line assignments words redirects =>
    setLine line
    modifyShell fun sh => { sh with outputStatus := 0 }
    push (.after f true)
    nextWord { line, flags := f, words, assignments, redirects }
  | .pipeline stages background =>
    push (.after f true)
    let pids ← forkStages background { tested := f.tested, exits := true } stages 0 none
    tidy
    let job ← addJob pids
    if background then
      modifyShell fun sh => { sh with background := pids.getLast? }
      setStatus 0
    else push (.await job)
  | .redirected line body redirects =>
    setLine line
    let p ← self
    pushAll [.restore p.saved.length false, .after f false]
    modifySelf fun p => { p with saved := [] :: p.saved }
    resolve redirects [] (.compound body inside)
  | .subshell line body redirects =>
    setLine line
    push (.after f true)
    resolve redirects [] (.subshell body false f)
  | .background line body redirects =>
    setLine line
    push (.after f true)
    resolve redirects [] (.subshell body true f)
  | .both first second => pushAll [.evaluate first asked, .both second f, .after f false]
  | .either first second => pushAll [.evaluate first asked, .either second f, .after f false]
  | .sequence first second => pushAll [.evaluate first inside, .next second f, .after f false]
  | .negation body => pushAll [.evaluate body asked, .negate, .after f false]
  | .choice condition yes no => pushAll [.evaluate condition asked, .choose yes no f, .after f false]
  | .loop untilTrue condition body =>
    enterLoop
    pushAll [.evaluate condition asked, .tested { untilTrue, condition, body, flags := inside },
      .after f false]
  | .each line name words body =>
    setLine line
    push (.after f false)
    nextItem { name, words, body, flags := inside }
  | .select line subject cases =>
    setLine line
    push (.after f false)
    push (.expand subject [] (.subject { cases, flags := f }))
  | .definition line name body =>
    modifyShell fun sh =>
      { sh with functions := (name, ⟨line, body⟩) :: sh.functions.filter fun g => g.1 != name }
    setStatus 0
    push (.after f false)

/-- Runs a command, once the signals that have come in are taken care of. -/
def evaluate (c : Command) (f : Flags) : Act Unit := do
  if (← shell).has .noexec then push (.after f false)
  else if ← takeSignal (.evaluate c f) then return
  else dispatch c f

/-- Looks at how a command ended: a script may end with it. -/
def settle (f : Flags) (checks : Bool) : Act Unit := do
  let sh ← shell
  if checks && sh.has .errexit && !f.tested && sh.status != 0 then raise .end_
  else if f.exits then raise .end_

def wayOf (w : Word) (k : Continuation) : Expansion.Way :=
  match k with
  | .argument c =>
    if (c.verdict.any (·.declares)) && Word.isAssignment w then .assignment else .argument
  | .value _ => .assignment
  | .item _ => .argument
  | .document .. | .mark .. => .document
  | _ => .plain

def continueWith (k : Continuation) (texts : List Text) : Act Unit := do
  let t := texts.headD []
  match k with
  | .argument c => nextWord { c with arguments := c.arguments ++ texts }
  | .target r left done p =>
    match resolved? r t with
    | some d => resolve left (d :: done) p
    | none =>
      modifyShell fun sh => { sh with line := sh.readLines }
      fault SyntaxFault.badDescriptor.message.toList
  | .document n left p => push (.open_ (.content n t :: left) p)
  | .value c => assign c (c.verdict.getD {}) t
  | .item r => nextItem { r with items := r.items ++ texts }
  | .subject s => nextPattern { s with subject := t }
  | .pattern s =>
    if Glob.fits (Glob.items (t.length + 1) t) s.subject then
      match s.body with
      | some body => push (.evaluate body s.flags)
      | none => setStatus 0
    else nextPattern s
  | .mark _ none => report t
  | .mark _ (some c) =>
    trace c t
    invoke c (c.verdict.getD {})

/-- Starts a child that writes what a word asks for. -/
def askFor (c : Command) (sh : Shell) : Act Unit := do
  let (output, input) ← newPipe
  let pid ← fork [.evaluate c { exits := true }] fun p =>
    (p.direct 1 (some input)).mapShell fun child =>
      { sh with jobs := child.jobs, traps := child.traps, ignored := child.ignored }
  modifySelf fun p => { p with held := output :: p.held }
  tidy
  let job ← addJob [pid]
  push (.collect output job [])

/-- Finds out what a word stands for, and goes on with that. -/
def expandOn (w : Word) (answers : List Text) (k : Continuation) : Act Unit := do
  let s ← get
  let sh := s.self.shell
  let files := s.machine.filesOf s.self
  let found := match k with
    | .pattern _ => (fun t => [t]) <$> Expansion.pattern w
    | k => Expansion.texts files (wayOf w k) w
  match Expansion.outcome found sh answers with
  | .done texts sh =>
    modifyShell fun _ => sh
    continueWith k texts
  | .ask c sh =>
    push (.expand w answers k)
    askFor c (if k matches .mark .. then { sh with settings := sh.settings.put .xtrace false } else sh)
  | .fault f sh =>
    modifyShell fun _ => sh
    match f, k with
    | .arithmetic _ .overflow, _ => die (.signal .arithmetic)
    | f, .mark raw _ =>
      complain f.message
      continueWith k [raw]
    | f, .document _ _ p => refused f.message p
    | f, _ => fault f.message

/-- How many bytes of output are read at once. -/
def outputChunk : Nat := 65536

/-- Reads what a child writes, then waits for its end. -/
def collectOn (opening job : Nat) (read : List (List UInt8)) : Act Unit := do
  let m ← machine
  match m.readFrom opening outputChunk false with
  | (m, .bytes bs) =>
    setMachine m
    push (.collect opening job (bs :: read))
  | (_, .nothingYet) => block
  | _ =>
    collect (some job)
    match ← job? job with
    | some j => if !j.isDone then block
    | none => pure ()
    let status := ((← job? job).bind Job.end?).map (·.number)
    forgetJob job
    modifyShell fun sh => { sh with outputStatus := status.getD 0 }
    modifySelf fun p => { p with
      held := p.held.erase opening
      work := match p.work with
        | .expand w answers k :: rest => .expand w (answers ++ [Text.ofBytes read.reverse.flatten]) k :: rest
        | work => work }
    tidy

/-- Waits for a job, and takes over its status. -/
def awaitOn (number : Nat) : Act Unit := do
  collect (some number)
  match ← job? number with
  | none => pure ()
  | some j =>
    if !j.isDone then block
    setStatus ((j.end?.map (·.number)).getD 0)
    forgetJob number

end DaemonDialogue.Script.Act
