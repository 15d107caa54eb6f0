import DaemonDialogue.Script.Program.Edit.Reader
import DaemonDialogue.Script.Program.Lines

/-!
# Running edits

For each line in turn it is put into the work space, the commands are run in order, and what
the space then holds is printed. A second space keeps text from line to line.
-/

namespace DaemonDialogue.Script.Program.Edit

abbrev Line := Text × Bool

/-- What an edit knows between two commands: the lines that are left, the number of the line in hand,
both spaces, what was printed (the last first), what is printed behind the line, the ranges that are open
with the number of their last line if that is known, whether something was put in, and the last pattern. -/
structure Session where
  left : List Line
  number : Nat := 0
  space : Text := []
  ended : Bool := true
  held : Text := []
  heldEnded : Bool := true
  output : List Text := []
  owesEnd : Bool := false
  behind : List Text := []
  open_ : List (Nat × Option Nat) := []
  changed : Bool := false
  last : Option Pattern := none
  failed : Bool := false
  deriving Inhabited

/-- How an edit goes on after a command: with the next one or another, or with the next line, where the
space is printed before or not or kept, or not at all. -/
inductive Next
  | on
  | to (place : Nat)
  | line (prints : Bool)
  | again
  | stop (prints : Bool) (code : Nat)

namespace Session

def isLast (s : Session) : Bool := s.left.isEmpty

/-- Prints a text, with the end of a line behind it if it has one. -/
def print (s : Session) (t : Text) (ended : Bool) : Session :=
  let before := if s.owesEnd then ['\n'] else []
  { s with output := (before ++ t ++ if ended then ['\n'] else []) :: s.output, owesEnd := !ended }

def printText (s : Session) (t : Text) : Session := if t.isEmpty then s else s.print t.dropLast true

/-- Prints what was kept for the end of the line. -/
def flush (s : Session) : Session := s.behind.foldl printText { s with behind := [] }

/-- Takes the next line, if there is one. -/
def advance? (s : Session) : Option (Text × Session) :=
  match s.left with
  | [] => none
  | (t, ended) :: left => some (t, { s.flush with left, ended, number := s.number + 1 })

/-- The pattern that is meant, which is the last one where none is given. -/
def resolve (s : Session) (p : Pattern) : Option Pattern × Session :=
  match p.regular, s.last with
  | some _, _ => (some p, { s with last := some p })
  | none, some q => (some q, s)
  | none, none => (none, { s with failed := true })

def matches_ (s : Session) (p : Pattern) : Bool × Session :=
  match s.resolve p with
  | (some { regular := some r, manner }, s) => (r.matchesIn manner s.space, s)
  | (_, s) => (false, s)

def isAt (s : Session) : Address → Bool × Session
  | .line n => (s.number == n, s)
  | .step first step =>
    (if step = 0 then s.number == first else first ≤ s.number && (s.number - first) % step == 0, s)
  | .last => (s.isLast, s)
  | .pattern p => s.matches_ p
  | .more _ | .multiple _ => (false, s)

/-- The session with a range opened, up to a line if it is known, or closed. -/
def openRange (s : Session) (place : Nat) (end_ : Option Nat) : Session :=
  { s with open_ := (place, end_) :: s.open_.filter fun o => o.1 != place }

def closeRange (s : Session) (place : Nat) : Session :=
  { s with open_ := s.open_.filter fun o => o.1 != place }

/-- Opens a range at its first line, unless that is also its last. -/
def beginRange (s : Session) (place : Nat) (second : Address) : Session :=
  let upTo (n : Nat) : Session := if n ≤ s.number then s else s.openRange place (some n)
  match second with
  | .line n => upTo n
  | .more n => upTo (s.number + n)
  | .multiple n => upTo (if n = 0 then 0 else s.number + n - s.number % n)
  | _ => s.openRange place none

def selects (s : Session) (place : Nat) (ls : Lines) : Bool × Session :=
  match ls.first, ls.second with
  | none, _ => (!ls.negated, s)
  | some a, none =>
    let (b, s) := s.isAt a
    (b != ls.negated, s)
  | some a, some b =>
    match s.open_.lookup place with
    | some (some n) =>
      let s := if n ≤ s.number then s.closeRange place else s
      ((s.number ≤ n) != ls.negated, s)
    | some none =>
      let (isEnd, s) := s.isAt b
      (!ls.negated, if isEnd then s.closeRange place else s)
    | none =>
      let (begins, s) := s.isAt a
      (begins != ls.negated, if begins then s.beginRange place b else s)

end Session

def Case.apply (c : Case) (t : Text) : Text :=
  match c with
  | .kept => t
  | .upper => t.map Ascii.upper
  | .lower => t.map Ascii.lower

def expand (groups : List (Nat × Text)) (parts : List Part) : Text :=
  let (pieces, _, _) := parts.foldl (fun (done, once, always) part =>
    let add (t : Text) : List Text × Case × Case :=
      match t with
      | [] => (done, once, always)
      | c :: rest =>
        let first := (if once == .kept then always else once).apply [c]
        ((first ++ always.apply rest) :: done, .kept, always)
    match part with
    | .text t => add t
    | .group n => add ((groups.lookup n).getD [])
    | .nextCase c => (done, c, always)
    | .case_ c => (done, .kept, c)) (([] : List Text), Case.kept, Case.kept)
  pieces.reverse.flatten

/-- Puts something in for matches from a place on, given how many were passed and where the last one
ended; none where nothing is put in. `fuel` bounds the length. -/
def substituteFrom (r : Regular) (m : Regular.Manner) (sub : Substitution) :
    Nat → Place → Nat → Option Nat → Bool → List Text → Option Text
  | 0, _, _, _, _, _ => none
  | fuel + 1, p, count, before, done, out =>
    let finish (out : List Text) (rest : Text) (done : Bool) : Option Text :=
      if done then some ((rest :: out).reverse.flatten) else none
    match r.find? m p with
    | none => finish out p.rest done
    | some (s, e) =>
      let out := p.rest.take (s.position - p.position) :: out
      let isEmpty : Bool := s.position == e.position
      let copied (out : List Text) (count : Nat) (done : Bool) : Option Text :=
        match e.rest, (e.step fun _ => true).head? with
        | c :: _, some q => substituteFrom r m sub fuel q count none done ([c] :: out)
        | _, _ => finish out [] done
      if isEmpty && before == some s.position then copied out count done
      else
        let count := count + 1
        let text := s.rest.take (e.position - s.position)
        let isMeant := if sub.all then sub.number ≤ count else sub.number == count
        let out := (if isMeant then expand ((0, text) :: e.groups) sub.parts else text) :: out
        let done := done || isMeant
        if isMeant && !sub.all then finish out e.rest true
        else if isEmpty then copied out count done
        else substituteFrom r m sub fuel e count (some e.position) done out

/-- The space with its characters made visible, in lines up to a width. -/
def visible (width : Nat) (t : Text) : Text :=
  let escapes : List (Char × Char) :=
    [('\\', '\\'), ('\x07', 'a'), ('\x08', 'b'), ('\x0c', 'f'), ('\n', 'n'), ('\r', 'r'), ('\t', 't'),
      ('\x0b', 'v')]
  let one (c : Char) : Text :=
    match escapes.lookup c with
    | some e => ['\\', e]
    | none =>
      if Glob.isPrint c then [c]
      else
        let digits := Nat.toDigits 8 c.toNat
        '\\' :: List.replicate (3 - digits.length) '0' ++ digits
  let (lines, line) := t.foldl (fun (lines, line) c =>
    let piece := one c
    if 1 < width && width - 1 < line.length + piece.length then (lines ++ [line ++ ['\\', '\n']], piece)
    else (lines, line ++ piece)) (([] : List Text), ([] : Text))
  (lines ++ [line ++ ['$']]).flatten

def perform (e : Script) (place : Nat) (c : Command) (s : Session) : Next × Session :=
  let first := s.space.takeWhile (· != '\n')
  match c.action with
  | .block _ => (.on, s)
  | .jump condition name =>
    let jumps := match condition with
      | .always => true
      | .changed => s.changed
      | .unchanged => !s.changed
    let s := if condition == .always then s else { s with changed := false }
    (if jumps then .to (if name.isEmpty then e.commands.length else (e.labels.lookup name).getD 0) else .on, s)
  | .print => (.on, s.print s.space s.ended)
  | .printFirst => (.on, s.print first true)
  | .delete => (.line false, s)
  | .deleteFirst =>
    if s.space.contains '\n' then (.again, { s with space := s.space.drop (first.length + 1) })
    else (.line false, s)
  | .next =>
    if s.isLast then (.stop true 0, s)
    else
      let s := if e.quiet then s else s.print s.space s.ended
      match s.advance? with
      | some (t, s) => (.on, { s with space := t })
      | none => (.stop false 0, s)
  | .join =>
    match s.advance? with
    | some (t, s) => (.on, { s with space := s.space ++ '\n' :: t })
    | none => (.stop true 0, s)
  | .quit code prints => (.stop prints code, s)
  | .number => (.on, s.print (Text.ofNat s.number) true)
  | .show_ width => (.on, s.print (visible width s.space) true)
  | .hold adds =>
    (.on, { s with held := if adds then s.held ++ '\n' :: s.space else s.space, heldEnded := s.ended })
  | .get_ adds =>
    (.on, { s with space := if adds then s.space ++ '\n' :: s.held else s.held, ended := s.heldEnded })
  | .exchange => (.on, { s with space := s.held, ended := s.heldEnded, held := s.space, heldEnded := s.ended })
  | .empty => (.on, { s with space := [] })
  | .substitute sub =>
    match s.resolve sub.pattern with
    | (some { regular := some r, manner }, s) =>
      match substituteFrom r manner sub (s.space.length + 2) { rest := s.space } 0 none false [] with
      | none => (.on, s)
      | some t =>
        let s := { s with space := t, changed := true }
        (.on, if sub.prints then s.print t s.ended else s)
    | (_, s) => (.stop false 1, s)
  | .exchangeChars pairs => (.on, { s with space := s.space.map fun c => (pairs.lookup c).getD c })
  | .append t => (.on, { s with behind := s.behind ++ [t] })
  | .insert t => (.on, s.printText t)
  | .change t =>
    let continues := c.lines.second.isSome && !c.lines.negated && (s.open_.lookup place).isSome
    (.line false, if continues then s else s.printText t)

/-- What an edit has printed in the end, and how it ends: at which line, and whether a command stopped it. -/
structure Outcome where
  output : Text := []
  status : Nat := 0
  stopped : Bool := false
  failed : Bool := false
  number : Nat := 0

def Session.finish (s : Session) (prints : Bool) (status : Nat) (stopped : Bool) : Outcome :=
  let s := if prints then s.print s.space s.ended else s
  { output := s.flush.output.reverse.flatten, status, stopped, failed := s.failed, number := s.number }

/-- Goes on with the command at a place, or with the next line; `fuel` bounds the number of commands. -/
def runFrom (e : Script) : Nat → Nat → Session → Outcome
  | 0, _, s => s.finish false 0 false
  | fuel + 1, place, s =>
    let nextLine (s : Session) : Outcome :=
      match s.advance? with
      | some (t, s) => runFrom e fuel 0 { s with space := t, changed := false }
      | none => s.finish false 0 false
    if s.failed then s.finish false 1 true
    else
      match e.commands[place]? with
      | none => nextLine (if e.quiet then s else s.print s.space s.ended)
      | some c =>
        let (isMeant, s) := s.selects place c.lines
        match c.action, isMeant with
        | .block past, false => runFrom e fuel past s
        | _, false => runFrom e fuel (place + 1) s
        | _, true =>
          match perform e place c s with
          | (.on, s) => runFrom e fuel (place + 1) s
          | (.to place, s) => runFrom e fuel place s
          | (.line prints, s) => nextLine (if prints then s.print s.space s.ended else s)
          | (.again, s) => runFrom e fuel 0 s.flush
          | (.stop prints code, s) => s.finish (prints && !e.quiet) code true

/-- How many commands are run at most for each line that is read. -/
def patience : Nat := 100000

def Script.run (e : Script) (ls : List Line) : Outcome :=
  let fuel := (ls.length + 1) * (e.commands.length + 2) + patience
  let begun := e.commands.zipIdx.filterMap fun (c, i) =>
    match c.lines.first with
    | some (.line 0) => some (i, (none : Option Nat))
    | _ => none
  match ls with
  | [] => {}
  | (t, ended) :: left => runFrom e fuel 0 { left, ended, number := 1, space := t, open_ := begun }

def grammar : Grammar where
  letters := Grammar.ofLetters "nErsuz" "ef"
  names := [("quiet", 'n'), ("silent", 'n'), ("expression", 'e'), ("regexp-extended", 'E'), ("separate", 's'),
    ("unbuffered", 'u'), ("null-data", 'z'), ("posix", 'P')]

def usage (name : Text) : Text :=
  "Usage: ".toList ++ name ++
    " [OPTION]... \x7bscript-only-if-no-other-script\x7d [input-file]...\n\n".toList

/-- The edit that options and operands give, and the operands that are left; none without one. -/
def script? (p : Parsed) : Option (Except ScriptFault Script × List Text) :=
  let given := (p.options.filter fun o => o.1 == 'e').map (·.2)
  let read (texts : List Text) : Except ScriptFault Script :=
    Script.read (p.has 'E' || p.has 'r') (p.has 'n') texts
  match given, p.operands with
  | [], [] => none
  | [], t :: rest => some (read [t], rest)
  | given, rest => some (read given, rest)

def sources (name : Text) (p : Parsed) : Except Result (List Text) :=
  match script? p with
  | none => .error { complaints := usage name, status := 1 }
  | some (.error e, _) => .error { complaints := complaint name e.message, status := e.status }
  | some (.ok _, []) => .ok [['-']]
  | some (.ok _, rest) => .ok rest

/-- The lines of some sources; the last of all but the last source has an end. -/
def linesOfAll (inputs : List Input) : List Line :=
  let lines (t : Text) : List Line :=
    (linesKept (t.length + 1) t).map fun l =>
      if l.getLast? == some '\n' then (l.dropLast, true) else (l, false)
  inputs.flatMap fun i => lines i.text

def outcome? (p : Parsed) (inputs : List Input) : Option Outcome :=
  match script? p with
  | some (.ok e, _) => some (e.run (linesOfAll inputs))
  | _ => none

def write (p : Parsed) (inputs : List Input) : Result :=
  match outcome? p inputs with
  | some o =>
    let complaints := if o.failed then
        complaint "sed".toList "-e expression #1, char 0: no previous regular expression".toList
      else []
    { output := o.output, complaints, status := o.status }
  | none => {}

/-- May an edit stop before the last line? -/
def stops (p : Parsed) : Bool :=
  match script? p with
  | some (.ok e, _) => e.commands.any fun c => (c.action matches .quit ..)
  | _ => false

/-- The end of an edit that stops before the last of some lines. -/
def early (p : Parsed) (inputs : List Input) : Option Result :=
  match script? p with
  | some (.ok e, _) =>
    let whole := inputs.map fun i =>
      { i with text := (i.text.reverse.dropWhile (· != '\n')).reverse }
    let ls := linesOfAll whole
    let o := e.run (ls ++ [([], true)])
    if o.stopped && !o.failed && o.number ≤ ls.length then some { output := o.output, status := o.status }
    else none
  | _ => none

end DaemonDialogue.Script.Program.Edit
