import DaemonDialogue.Text.Blank
import DaemonDialogue.Text.Numeral
import DaemonDialogue.Time.Span

/-!
# Configuration

How long the harness waits, where it keeps its files and whether it prints. The
environment overlays the defaults variable by variable, in a fixed order; the
first variable with a bad value is the one reported.
-/

namespace DaemonDialogue

/-- The configuration of a harness and its handles. -/
structure Config where
  tempDir : String := "/tmp/cmdtest"
  expectTimeout : Span := .ofSeconds 5
  pollInterval : Span := .ofMillis 10
  endpointPollInterval : Span := .ofMillis 50
  drainGrace : Span := .ofSeconds 1
  cleanupScratch : Bool := true
  printOutput : Bool := true
  logDir : Option String := none
  environment : List (String × String) := []
  deriving DecidableEq, Repr

namespace Config

/-- Why a variable cannot be taken. -/
inductive Fault
  | invalidValue (name expected value : String)
  | outOfRange (name value : String) (least greatest : Nat)
  deriving DecidableEq, Repr

def Fault.message : Fault → String
  | .invalidValue name expected value =>
    s!"Invalid value for {name}: expected {expected}, got '{value}'"
  | .outOfRange name value least greatest =>
    s!"Value out of range for {name}: {value} (valid: {least}..={greatest})"

abbrev Lookup := String → Option String

/-- A count of milliseconds within a range, if the variable is set. -/
def millis? (lookup : Lookup) (name : String) (least greatest : Nat) :
    Except Fault (Option Span) :=
  match lookup name with
  | none => .ok none
  | some raw =>
    match Numeral.read Numeral.maxU64 (trim raw) with
    | .error _ => .error (.invalidValue name "milliseconds" raw)
    | .ok n =>
      if least ≤ n ∧ n ≤ greatest then .ok (some (.ofMillis n))
      else .error (.outOfRange name raw least greatest)

def truthOf? (word : String) : Option Bool :=
  let word := String.ofList (word.toList.map Ascii.lower)
  if ["1", "true", "yes", "on"].contains word then some true
  else if ["0", "false", "no", "off", ""].contains word then some false
  else none

/-- A yes or no, if the variable is set. -/
def truth? (lookup : Lookup) (name : String) : Except Fault (Option Bool) :=
  match lookup name with
  | none => .ok none
  | some raw =>
    match truthOf? (trim raw) with
    | some b => .ok (some b)
    | none => .error (.invalidValue name "boolean" raw)

/-- A text that is not blank, without the blanks around it. -/
def text? (lookup : Lookup) (name : String) : Option String :=
  match lookup name with
  | none => none
  | some raw => if (trim raw).isEmpty then none else some (trim raw)

def overlay (c : Config) (lookup : Lookup) : Except Fault Config := do
  let expect ← millis? lookup "CMDTEST_EXPECT_TIMEOUT_MS" 1 600000
  let poll ← millis? lookup "CMDTEST_POLL_INTERVAL_MS" 1 1000
  let endpoint ← millis? lookup "CMDTEST_ENDPOINT_POLL_MS" 1 5000
  let grace ← millis? lookup "CMDTEST_DRAIN_GRACE_MS" 1 60000
  let dir := text? lookup "CMDTEST_TEMP_DIR"
  let keep ← truth? lookup "CMDTEST_KEEP_SCRATCH"
  let quiet ← truth? lookup "CMDTEST_QUIET"
  return { c with
    expectTimeout := expect.getD c.expectTimeout
    pollInterval := poll.getD c.pollInterval
    endpointPollInterval := endpoint.getD c.endpointPollInterval
    drainGrace := grace.getD c.drainGrace
    tempDir := dir.getD c.tempDir
    cleanupScratch := (keep.map (!·)).getD c.cleanupScratch
    printOutput := (quiet.map (!·)).getD c.printOutput }

def ofEnvironment (lookup : Lookup) : Except Fault Config :=
  overlay {} lookup

end Config
end DaemonDialogue
