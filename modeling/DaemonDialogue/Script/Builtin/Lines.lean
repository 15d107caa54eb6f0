import DaemonDialogue.Script.Builtin.Variable
import DaemonDialogue.Script.Condition
import DaemonDialogue.Script.Printing.Format

/-!
# Commands that read and write

Arguments are printed, conditions are tested, and lines are read into variables.
-/

namespace DaemonDialogue.Script.Builtin

open Act

def runPrintf (arguments : List Text) : Act Unit := do
  match options [] arguments with
  | .error e => fault e
  | .ok (_, []) => fault "usage: printf format [arg ...]".toList
  | .ok (_, format :: left) =>
    let printed := Printing.printf format left
    printed.warnings.forM fun f => complain f.message
    match printed.fault with
    | some f =>
      fault f.message
      let _ ← write 1 printed.text
    | none => reply printed.text (if printed.warnings.isEmpty then 0 else 1)

def runTest (name : Text) (arguments : List Text) : Act Unit := do
  let s ← get
  match Condition.ofCommand (s.machine.filesOf s.self) name arguments with
  | .ok b => setStatus (if b then 0 else 1)
  | .error f => fault f.message

def runRead (arguments : List Text) : Act Unit := do
  match options [('p', true), ('r', false)] arguments with
  | .error e => fault e
  | .ok (_, []) => fault "arg count".toList
  | .ok (found, names) =>
    push (.readLine (found.any fun f => f.1 == 'r') names [⟨[], .atSeparators⟩] false)

/-- What was read so far: runs, the last one first with its glyphs the other way around, whether
a backslash was last, and whether the line has ended. -/
structure LineDraft where
  runs : List Run
  shielded : Bool := false
  ended : Bool := false

def LineDraft.add (raw : Bool) (d : LineDraft) (c : Char) : LineDraft :=
  let current := d.runs.headD ⟨[], .atSeparators⟩
  let before := d.runs.drop 1
  if d.ended || c == '\x00' then d
  else if d.shielded then
    let shown := if c == '\n' then [] else [⟨[.shielded c], .never⟩]
    { runs := ⟨[], .atSeparators⟩ :: shown ++ d.runs, shielded := false }
  else if !raw && c == '\\' then { d with shielded := true }
  else if c == '\n' then { d with ended := true }
  else { d with runs := ⟨.char c :: current.glyphs, .atSeparators⟩ :: before }

def assignFields : List Text → List (List Glyph) → Act Bool
  | [], _ => return true
  | name :: rest, fields => do
    if ← setVariable name (Glyph.text (fields.headD [])) then assignFields rest (fields.drop 1)
    else return false

def takeLine (names : List Text) (d : LineDraft) (status : Nat) : Act Unit := do
  let runs := (d.runs.map fun r => { r with glyphs := r.glyphs.reverse }).reverse
  let fields := Field.splitInto names.length (← shell).separators runs
  if ← assignFields names fields then setStatus status

/-- How many bytes are read at once at most. -/
def chunk : Nat := 65536

/-- Goes on reading a line; a signal that is taken care of ends it. -/
def readOn (raw : Bool) (names : List Text) (d : LineDraft) : Act Unit := do
  let s ← get
  match s.machine.read s.self 0 chunk true with
  | (_, .nothingYet) =>
    if s.self.pending.isEmpty then block else takeLine names d 1
  | (m, .bytes bs) =>
    setMachine m
    let d := (Text.ofBytes bs).foldl (LineDraft.add raw) d
    if d.ended then takeLine names d 0 else push (.readLine raw names d.runs d.shielded)
  | _ => takeLine names d 1

end DaemonDialogue.Script.Builtin
