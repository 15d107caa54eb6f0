import DaemonDialogue.Script.Program.Lines
import DaemonDialogue.Script.Program.Regular

/-!
# Lines that expressions match

Lines are selected by some expressions, one on each line of what is given. A selected line is shown with
lines around it, or only its parts that match.
-/

namespace DaemonDialogue.Script.Program.Grep

def grammar : Grammar where
  letters := Grammar.ofLetters "EFGivwxclLqsonhHyz" "emABC"
  names := [("extended-regexp", 'E'), ("fixed-strings", 'F'), ("basic-regexp", 'G'), ("ignore-case", 'i'),
    ("invert-match", 'v'), ("word-regexp", 'w'), ("line-regexp", 'x'), ("count", 'c'),
    ("files-with-matches", 'l'), ("files-without-match", 'L'), ("quiet", 'q'), ("silent", 'q'),
    ("no-messages", 's'), ("only-matching", 'o'), ("line-number", 'n'), ("no-filename", 'h'),
    ("with-filename", 'H'), ("regexp", 'e'), ("max-count", 'm'), ("after-context", 'A'),
    ("before-context", 'B'), ("context", 'C')]

def usage (name : Text) : Text :=
  "Usage: ".toList ++ name ++ " [OPTION]... PATTERNS [FILE]...\nTry '".toList ++ name ++
    " --help' for more information.\n".toList

/-- What the program is asked for: how lines are selected, and how many around them are shown. -/
structure Query where
  patterns : List Regular
  manner : Regular.Manner
  whole : Bool
  words : Bool
  negated : Bool
  most : Option Nat
  around : Option (Nat × Nat)

def patternTexts? (p : Parsed) : Option (List Text × List Text) :=
  let given := (p.options.filter fun o => o.1 == 'e').map (·.2)
  match given, p.operands with
  | [], [] => none
  | [], pattern :: rest => some (Text.fields '\n' pattern, rest)
  | given, operands => some (given.flatMap (Text.fields '\n'), operands)

def number? (p : Parsed) (c : Char) (why : Text → Text) : Except Text (Option Nat) :=
  match p.argument? c with
  | none => .ok none
  | some t => if !t.isEmpty && t.all Ascii.isDigit then .ok (some (Ascii.digitsValue t)) else .error (why t)

/-- What options and patterns ask for, or why that is not possible. -/
def query (p : Parsed) (texts : List Text) : Except Text Query := do
  let context (t : Text) : Text := t ++ ": invalid context length argument".toList
  let after ← number? p 'A' context
  let before ← number? p 'B' context
  let both ← number? p 'C' context
  let most ← number? p 'm' fun _ => "invalid max count".toList
  let kind := (p.last? ['E', 'F', 'G']).getD 'G'
  let patterns ← texts.mapM fun t =>
    if kind == 'F' then .ok (.ofText t)
    else (Regular.read (kind == 'E') t).mapError fun f => f.message.toList
  let around : Option (Nat × Nat) :=
    if (after.or before).or both |>.isNone then none
    else some ((before.or both).getD 0, (after.or both).getD 0)
  return {
    patterns, manner := { folds := p.has 'i' || p.has 'y' }
    whole := p.has 'x', words := p.has 'w', negated := p.has 'v', most, around }

def sources (name : Text) (p : Parsed) : Except Result (List Text) :=
  match patternTexts? p with
  | none => .error { complaints := usage name, status := 2 }
  | some (texts, operands) =>
    match query p texts with
    | .error e => .error { complaints := complaint name e, status := 2 }
    | .ok _ => .ok (if operands.isEmpty then [['-']] else operands)

namespace Query

def endAt? (q : Query) (p : Place) : Option Place :=
  let isPart (c : Option Char) : Bool := c.any Text.isNameChar
  let fits (e : Place) : Bool :=
    (!q.whole || (p.before.isNone && e.rest.isEmpty)) &&
      (!q.words || (!isPart p.before && !isPart e.rest.head?))
  let found := q.patterns.flatMap fun r => (r.ends q.manner { p with groups := [] }).filter fits
  (Place.longestFirst found).head?

/-- The first match in a line, from a place on. -/
def find? (q : Query) (p : Place) : Option (Place × Place) :=
  p.onward.findSome? fun s => (q.endAt? s).map fun e => (s, e)

def selects (q : Query) (line : Text) : Bool := (q.find? { rest := line }).isSome != q.negated

/-- The parts of a line that match, those without any text left out; `fuel` bounds their number. -/
def parts (q : Query) : Nat → Place → List Text
  | 0, _ => []
  | fuel + 1, p =>
    match q.find? p with
    | none => []
    | some (s, e) =>
      if s.position < e.position then s.rest.take (e.position - s.position) :: parts q fuel e
      else ((s.step fun _ => true).head?.map (parts q fuel)).getD []

/-- Which lines are selected, up to as many as are wanted; those behind are left out. -/
def selected (q : Query) : Option Nat → List Text → List (Text × Bool)
  | _, [] => []
  | some 0, lines => lines.map fun l => (l, false)
  | left, line :: lines =>
    let chosen := q.selects line
    (line, chosen) :: selected q (if chosen then left.map (· - 1) else left) lines

end Query

/-- How lines are shown: after the name of their source, after their number, and only in parts. -/
structure Display where
  names : Bool
  numbers : Bool
  onlyParts : Bool

/-- What is before a line; the mark tells those that are selected from those around them. -/
def Display.lead (d : Display) (name : Text) (number : Nat) (mark : Char) : Text :=
  (if d.names then name ++ [mark] else []) ++ (if d.numbers then Text.ofNat number ++ [mark] else [])

/-- The lines of a source that are shown; `begun` tells whether others were shown before. -/
def shown (q : Query) (d : Display) (begun : Bool) (name : Text) (lines : List (Text × Bool)) : Text :=
  let chosen := lines.zipIdx.filter fun l => l.1.2
  let near :=
    match q.around with
    | none => chosen
    | some (before, after) =>
      lines.zipIdx.filter fun l => chosen.any fun c => c.2 ≤ l.2 + before && l.2 ≤ c.2 + after
  let line (l : (Text × Bool) × Nat) : Text :=
    let lead := d.lead name (l.2 + 1) (if l.1.2 then ':' else '-')
    if !d.onlyParts then lead ++ l.1.1 ++ ['\n']
    else if !l.1.2 || q.negated then []
    else (q.parts (l.1.1.length + 1) { rest := l.1.1 }).flatMap fun t => lead ++ t ++ ['\n']
  let (out, _) := near.foldl (fun (out, last) l =>
    let breaks := q.around.isSome && match last with
      | some n => n + 1 < l.2
      | none => begun
    (out ++ (if breaks then [['-', '-', '\n']] else []) ++ [line l], some l.2))
    (([] : List Text), (none : Option Nat))
  out.flatten

def write (p : Parsed) (inputs : List Input) : Result :=
  match patternTexts? p with
  | none => {}
  | some (texts, operands) =>
    match query p texts with
    | .error _ => { status := 2 }
    | .ok q =>
      let d : Display :=
        { names := (1 < operands.length || p.has 'H') && p.last? ['h', 'H'] != some 'h'
          numbers := p.has 'n', onlyParts := p.has 'o' }
      let name (i : Input) : Text := if i.name == ['-'] then "(standard input)".toList else i.name
      let files := inputs.map fun i => (name i, q.selected q.most (linesOf i.text))
      let count (lines : List (Text × Bool)) : Nat := lines.countP (·.2)
      let any := files.any fun f => 0 < count f.2
      let names (wanted : Bool) : Text :=
        joined ((files.filter fun f => (0 < count f.2) == wanted).map (·.1))
      let output :=
        if p.has 'q' then []
        else if p.has 'l' || p.has 'L' then names (p.last? ['l', 'L'] == some 'l')
        else if p.has 'c' then
          files.flatMap fun f => (if d.names then f.1 ++ [':'] else []) ++ Text.ofNat (count f.2) ++ ['\n']
        else
          (files.foldl (fun (out : List Text × Bool) f =>
            (out.1 ++ [shown q d out.2 f.1 f.2], out.2 || 0 < count f.2)) ([], false)).1.flatten
      { output, status := if any then 0 else 1 }

/-- Is it enough that some line is selected? -/
def answersAtOnce (p : Parsed) : Bool := p.has 'q' || (p.has 'l' && p.operands.length ≤ 2)

/-- May what is read later change nothing? -/
def stops (p : Parsed) : Bool := answersAtOnce p || (p.has 'm' && p.operands.length ≤ 2)

/-- The end of a program that stops, where nothing that is read later changes it. -/
def early (p : Parsed) (inputs : List Input) : Option Result := do
  if !answersAtOnce p then
    let t ← p.argument? 'm'
    let (texts, _) ← patternTexts? p
    let q ← (query p texts).toOption
    let found := inputs.map fun i => (q.selected q.most (linesOf i.text)).countP (·.2)
    guard (Ascii.digitsValue t ≤ Text.total found)
  let r := write p inputs
  guard (r.status == 0)
  return r

end DaemonDialogue.Script.Program.Grep
