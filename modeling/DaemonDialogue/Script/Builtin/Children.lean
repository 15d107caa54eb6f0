import DaemonDialogue.Script.Builtin.Control

/-!
# Commands about processes

Signals are sent, jobs are listed, and their ends are waited for.
-/

namespace DaemonDialogue.Script.Builtin

open Act

def killUsage : Text :=
  "Usage: kill [-s sigspec | -signum | -sigspec] [pid | job]... or\nkill -l [exitstatus]".toList

/-- The job that is named behind a percent sign, or why there is none. -/
def jobOf (jobs : List Job) (name : Text) : Except Text Job :=
  let missing : Except Text Job := .error ("No such job: ".toList ++ name)
  let or (j : Option Job) (why : String) : Except Text Job :=
    match j with
    | some j => .ok j
    | none => .error why.toList
  match name with
  | ['%'] | ['%', '+'] | ['%', '%'] => or jobs.head? "No current job"
  | ['%', '-'] => or jobs[1]? "No previous job"
  | '%' :: t =>
    if t.all Ascii.isDigit then
      match jobs.find? fun j => j.number == Ascii.digitsValue t with
      | some j => .ok j
      | none => missing
    else missing
  | _ => missing

/-- The process that an argument names; none inside if it names a group, of which there are none. -/
def targetOf (t : Text) : Act (Option (Option Nat)) := do
  match t with
  | '%' :: _ =>
    match jobOf (← shell).jobs t with
    | .ok _ => return some none
    | .error e =>
      fault e
      return none
  | '-' :: digits =>
    match Number.count? digits with
    | some _ => return some none
    | none =>
      illegalNumber digits
      return none
  | t =>
    match Number.count? t with
    | some n => return some (some n)
    | none =>
      illegalNumber t
      return none

def killAll (n : Nat) (status : Nat) : List Text → Act Unit
  | [] => setStatus status
  | t :: rest => do
    match ← targetOf t with
    | none => pure ()
    | some target =>
      let sent ← match target with
        | some pid => signal pid ⟨n⟩
        | none => pure false
      if sent then killAll n status rest
      else
        complain "No such process\n".toList
        killAll n 1 rest

def listSignals (arguments : List Text) : Act Unit := do
  match arguments with
  | [] => reply (['0', '\n'] ++ (Signal.names.drop 1).flatMap fun n => n.toList ++ ['\n']) 0
  | t :: _ =>
    match Number.count? t with
    | none => illegalNumber t
    | some n =>
      let n' := if 128 < n then n - 128 else n
      if 0 < n' && n' ≤ Signal.lastFree then reply (Shell.signalName n' ++ ['\n']) 0
      else fault ("invalid signal number or exit status: ".toList ++ t)

def runKill (arguments : List Text) : Act Unit := do
  match arguments with
  | [] => fault killUsage
  | ('-' :: spec) :: rest =>
    match signalOf? 1 spec, spec with
    | some n, _ => if rest.isEmpty then fault killUsage else killAll n 0 rest
    | none, ['0'] => if rest.isEmpty then fault killUsage else killAll 0 0 rest
    | none, _ =>
      match options [('l', false), ('s', true)] arguments with
      | .error e => fault e
      | .ok (found, left) =>
        let named := (found.filter fun f => f.1 == 's').map (·.2)
        match named.find? fun t => (signalOf? 1 t).isNone && t != ['0'] with
        | some t => fault ("invalid signal number or name: ".toList ++ t)
        | none =>
          let number := named.getLast?.map fun t => (signalOf? 1 t).getD 0
          if found.any fun f => f.1 == 'l' then
            if number.isSome && !left.isEmpty then fault killUsage else listSignals left
          else if left.isEmpty then fault killUsage
          else killAll (number.getD 15) 0 left
  | arguments => killAll 15 0 arguments

def markOf (jobs : List Job) (j : Job) : Char :=
  if (jobs.head?.map (·.number)) == some j.number then '+'
  else if (jobs[1]?.map (·.number)) == some j.number then '-'
  else ' '

/-- Lists a job, and forgets it if it is done. -/
def listJob (detail : Job.Detail) (out : Text) (j : Job) : Act Text := do
  let jobs := (← shell).jobs
  if j.isDone && detail != .group then forgetJob j.number
  return out ++ j.listing detail (markOf jobs j)

def listNamed (detail : Job.Detail) (out : Text) : List Text → Act Unit
  | [] => reply out 0
  | name :: rest => do
    match jobOf (← shell).jobs name with
    | .ok j => listNamed detail (← listJob detail out j) rest
    | .error e =>
      reply out 0
      fault e

def runJobs (arguments : List Text) : Act Unit := do
  match options [('l', false), ('p', false)] arguments with
  | .error e => fault e
  | .ok (found, left) =>
    let detail := match found.getLast? with
      | some ('p', _) => .group
      | some _ => .processes
      | none => .short
    if left.isEmpty then
      collect none
      reply (← (← shell).jobs.foldlM (listJob detail) []) 0
    else listNamed detail [] left

/-- Moves a job, which would need a terminal. -/
def runMove (arguments : List Text) : Act Unit := do
  match options [] arguments with
  | .error e => fault e
  | .ok (_, left) =>
    let name := left.headD ['%', '%']
    match jobOf (← shell).jobs name with
    | .error e => fault e
    | .ok _ =>
      let shown := if left.isEmpty then "(null)".toList else name
      fault ("job ".toList ++ shown ++ " not created under job control".toList)

def runWait (arguments : List Text) : Act Unit := do
  match options [] arguments with
  | .error e => fault e
  | .ok (_, []) => push (.wait .all)
  | .ok (_, left) => push (.wait (.some_ left 127))

/-- The job that an argument of `wait` means: none inside if it is none of this shell, and no
answer at a fault. -/
def awaitedJob (t : Text) : Act (Option (Option Job)) := do
  let jobs := (← shell).jobs
  match t with
  | '%' :: _ =>
    match jobOf jobs t with
    | .ok j => return some (some j)
    | .error e =>
      fault e
      return none
  | t =>
    match Number.count? t with
    | some n => return some (jobs.find? fun j => j.lastPid? == some n)
    | none =>
      illegalNumber t
      return none

/-- Goes on waiting; a signal that is taken care of ends it. -/
def waitOn (a : Awaited) : Act Unit := do
  match a with
  | .all =>
    collect none
    let p ← self
    if p.shell.jobs.all Job.isDone then
      modifyShell fun sh => { sh with jobs := sh.jobs.map fun j => { j with waited := true } }
      setStatus 0
    else
      match p.pending with
      | n :: _ => setStatus (128 + n)
      | [] => block
  | .some_ [] status => setStatus status
  | .some_ (t :: rest) status =>
    match ← awaitedJob t with
    | none => pure ()
    | some none => push (.wait (.some_ rest status))
    | some (some j) =>
      collect (some j.number)
      match ← job? j.number with
      | some j =>
        if j.isDone then
          modifyShell fun sh => { sh with jobs := sh.jobs.map fun k =>
            if k.number == j.number then { k with waited := true } else k }
          push (.wait (.some_ rest ((j.end?.map (·.number)).getD 0)))
        else
          match (← self).pending with
          | n :: _ => setStatus (128 + n)
          | [] => block
      | none => push (.wait (.some_ rest status))

end DaemonDialogue.Script.Builtin
