import DaemonDialogue.Log.Logger

/-!
# Failure reports

A report lists the errors of a test and the last lines that each process wrote to
its standard error. There is none without an error.
-/

namespace DaemonDialogue.Log

/-- How many lines of a process a report shows. -/
def reportTail : Nat := 20

abbrev ProcessId := String × Nat

def Entry.process? (e : Entry) : Option ProcessId :=
  match e.source with
  | .harness => none
  | .process name pid _ => some (name, pid)

/-- The processes of a log in the order of their first entries. -/
def processes (entries : List Entry) : List ProcessId :=
  (entries.filterMap Entry.process?).foldl
    (fun seen p => if seen.contains p then seen else seen ++ [p]) []

def stderrLines (p : ProcessId) (entries : List Entry) : List String :=
  (entries.filter fun e => e.source == .process p.1 p.2 .stderr).map (·.message)

/-- The last lines of a process under a heading; nothing for a process without lines. -/
def section_ (p : ProcessId) (lines : List String) : List String :=
  if lines.isEmpty then []
  else
    let shown := lines.drop (lines.length - reportTail)
    s!"--- {p.1}:{p.2} stderr (last {shown.length} lines)" :: shown.map ("    " ++ ·)

def rule : String := String.ofList (List.replicate 60 '=')

def reportLines (testName : String) (entries : List Entry) : List String :=
  let errors := entries.filter fun e => e.level == .error
  [rule, "Failure report: " ++ testName, rule] ++
    errors.map (fun e => "error: " ++ e.message) ++
    (processes entries).flatMap (fun p => section_ p (stderrLines p entries)) ++ [rule]

end DaemonDialogue.Log

namespace DaemonDialogue.Logger

/-- The report on a test, if there was an error. -/
def failureReport (l : Logger) : Option String :=
  if l.hasErrors then some ("\n".intercalate (Log.reportLines l.testName l.entries)) else none

def printSummary (l : Logger) : Logger :=
  match l.failureReport with
  | some report => { l with echoed := l.echoed.push ("\n" ++ report) }
  | none => l

end DaemonDialogue.Logger
