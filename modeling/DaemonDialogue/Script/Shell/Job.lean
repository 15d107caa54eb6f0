import DaemonDialogue.Daemon.Signal
import DaemonDialogue.Script.Text

/-!
# Jobs

Processes that a shell started together. It learns of their ends one by one, whenever it
waits, and forgets a job once someone has asked how it ended.
-/

namespace DaemonDialogue.Script

/-- A job: its number, its processes with their ends as far as they are known, and whether it
was waited for. -/
structure Job where
  number : Nat
  members : List (Nat × Option ExitStatus) := []
  waited : Bool := false
  deriving Repr, Inhabited

namespace Job

def isDone (j : Job) : Bool := j.members.all fun m => m.2.isSome

/-- How the last process of a job ended. -/
def end? (j : Job) : Option ExitStatus := j.members.getLast?.bind (·.2)

def lastPid? (j : Job) : Option Nat := j.members.getLast?.map (·.1)

def has (j : Job) (pid : Nat) : Bool := j.members.any fun m => m.1 == pid

def learn (j : Job) (pid : Nat) (status : ExitStatus) : Job :=
  { j with members := j.members.map fun m => if m.1 == pid then (pid, some status) else m }

def describe (j : Job) : Text :=
  match j.isDone, j.end? with
  | true, some (.code 0) => "Done".toList
  | true, some (.code n) => "Done(".toList ++ Text.ofNat n ++ [')']
  | true, some (.signal s) => s.describe.toList
  | _, _ => "Running".toList

/-- What a job is listed with: its processes one by one, only the first, or neither. -/
inductive Detail
  | short
  | processes
  | group
  deriving DecidableEq, Repr, Inhabited

def commandColumn : Nat := 33

/-- A text and blanks up to a column, at least one. -/
def padded (t : Text) (width : Nat) : Text := t ++ List.replicate (max 1 (width - t.length)) ' '

/-- A job as it is listed; `mark` tells the last two jobs from the others. -/
def listing (j : Job) (detail : Detail) (mark : Char) : Text :=
  let first := Text.ofNat ((j.members.head?.map (·.1)).getD 0)
  let head := '[' :: Text.ofNat j.number ++ [']', ' ', mark, ' ']
  match detail with
  | .group => first ++ ['\n']
  | .short =>
    padded (head ++ j.describe) commandColumn ++
      (j.members.drop 1).flatMap (fun _ => " | ".toList) ++ ['\n']
  | .processes =>
    let others := (j.members.drop 1).flatMap fun m =>
      let line := List.replicate head.length ' ' ++ Text.ofNat m.1 ++ [' ']
      " |\n".toList ++ padded line commandColumn
    padded (head ++ first ++ [' '] ++ j.describe) commandColumn ++ others ++ ['\n']

/-- A job that was waited for gives its number to the next one. -/
def isFree (j : Job) : Bool := j.isDone && j.waited

/-- The jobs with a new one in front, which takes the first number that is free. -/
def add (members : List (Nat × Option ExitStatus)) (jobs : List Job) : List Job :=
  let taken (n : Nat) : Bool := jobs.any fun j => j.number == n && !j.isFree
  let number := ((List.range (jobs.length + 1)).map (· + 1)).find? (fun n => !taken n) |>.getD 1
  { number, members } :: jobs.filter fun j => j.number != number

end Job
end DaemonDialogue.Script
