import DaemonDialogue.Script.Evaluation
import DaemonDialogue.Script.Reader.Command

/-!
# Scripts at work

A script is read line by line, and each line is run before the next one is read. Where a
script is the input of its shell, more of it is read when the text is used up.
-/

namespace DaemonDialogue.Script

namespace Source

/-- What is known when the next line is read. -/
def state (s : Source) (sh : Shell) : Reader.State :=
  { strips := s.strips, complete := s.complete, line := s.line, aliases := sh.aliases
    documents := sh.documents, nextDocument := sh.nextDocument }

def bottom (strips : List Reader.Strip) : Text := (strips.getLast?.map (·.rest)).getD []

def add (s : Source) (t : Text) : Source :=
  match s.strips.reverse with
  | strip :: above => { s with strips := (({ strip with rest := strip.rest ++ t } : Reader.Strip) :: above).reverse }
  | [] => { s with strips := [⟨t, none, false⟩] }

/-- How far a text goes up to the end of the line that holds a place. -/
def lineEnd (t : Text) (place : Nat) : Nat :=
  if place = 0 || t[place - 1]? == some '\n' then place
  else
    let rest := t.drop place
    place + min rest.length ((rest.takeWhile (· != '\n')).length + 1)

end Source

namespace Act

/-- Shows what has been read of a script, if that is wanted; `left` is what was not read. -/
def echoLines (s : Source) (left : Text) : Act Source := do
  let all := Source.bottom s.strips
  let used := Source.lineEnd all (all.length - left.length)
  if s.isFile && (← shell).has .verbose then
    report ((all.take used).drop s.echoed)
  return { s with echoed := max used s.echoed - (all.length - left.length) }

/-- Asks for the lines that a command went on with: for each end of a line in it but those that
were asked for before. -/
def askForMore (s : Source) (count : Nat) : Act Unit := do
  let before := s.asked.getD 0
  (List.replicate (count - before) ()).forM fun _ => withMark "PS2" none report

/-- How many bytes of a script are read at once. -/
def scriptChunk : Nat := 8192

def readMore (s : Source) : Act Unit := do
  let here ← get
  match here.machine.read here.self 0 scriptChunk false with
  | (_, .nothingYet) => block
  | (m, .bytes bs) =>
    setMachine m
    push (.script (s.add ((Text.ofBytes bs).filter (· != '\x00'))))
  | _ => push (.script { s with complete := true })

/-- Ends a script that is used up. -/
def endScript (s : Source) : Act Unit := do
  if !s.ran && !s.prompts then setStatus 0
  if s.prompts then report ['\n']

/-- Reads the next line of a script and runs it. -/
def scriptOn (s : Source) : Act Unit := do
  if s.prompts && s.asked.isNone then
    push (.script { s with asked := some 0 })
    withMark "PS1" none report
  else readOn s
where readOn (s : Source) : Act Unit := do
  let sh ← shell
  let start := s.state sh
  match (Reader.readLine (Reader.fuelFor start)).run start with
  | .ok none _ =>
    let s ← echoLines s []
    endScript s
  | .ok (some c) st =>
    let left := Source.bottom st.strips
    let next ← echoLines s left
    modifyShell fun sh => { sh with
      documents := st.documents, nextDocument := st.nextDocument, readLines := st.line }
    let next := { next with strips := st.strips, line := st.line, asked := none }
    match c with
    | none => push (.script next)
    | some c =>
      let isLast := st.again && st.last = .endOfFile
      pushAll [.evaluate c { s.flags with exits := s.flags.exits && isLast }, .script { next with ran := true }]
    if s.prompts then askForMore s (st.line - s.line - 1)
  | .error (.fault line f) st =>
    let next ← echoLines s (Source.bottom st.strips)
    modifyShell fun sh => { sh with line }
    fault f.message.toList
    push (.script { next with strips := [⟨[], none, false⟩], line := st.line, echoed := 0 })
  | .error .starved _ =>
    let next ← echoLines s []
    let text := Source.bottom s.strips
    let count := text.count '\n'
    if s.prompts && s.asked.getD 0 < count then
      push (.script { s with asked := some count })
      askForMore s count
    else readMore { next with echoed := text.length }

end Act
end DaemonDialogue.Script
