import DaemonDialogue.Script.Program.Edit.Basic

/-!
# Reading edits

Commands stand on lines of their own or between semicolons. What is wrong is told with how
much of the text was read by then.
-/

namespace DaemonDialogue.Script.Program.Edit

/-- What is wrong with an edit, and what of its text was not read when that was found. -/
structure Fault where
  what : Text
  left : Option Text := none
  deriving Repr, Inhabited

def fault {α : Type} (what : String) (left : Text) : Except Fault α := .error { what := what.toList, left }

/-- Characters that a letter behind a backslash stands for. -/
def controls : List (Char × Char) :=
  [('n', '\n'), ('t', '\t'), ('r', '\r'), ('f', '\x0c'), ('v', '\x0b'), ('a', '\x07')]

/-- The text up to a mark that has no backslash before it, and what is behind it; in brackets the mark
stands for itself. `fuel` bounds the length. -/
def untilMark (mark : Char) (brackets : Bool) : Nat → Bool → Text → Text → Option (Text × Text)
  | 0, _, _, _ | _, _, _, [] => none
  | fuel + 1, inside, done, c :: rest =>
    if c == mark && !inside then some (done.reverse, rest)
    else
      match c, rest with
      | '\\', d :: rest =>
        if inside then untilMark mark brackets fuel inside ('\\' :: done) (d :: rest)
        else if d == mark then untilMark mark brackets fuel inside (d :: done) rest
        else untilMark mark brackets fuel inside (d :: '\\' :: done) rest
      | '[', '^' :: ']' :: rest =>
        if brackets && !inside then untilMark mark brackets fuel true (']' :: '^' :: '[' :: done) rest
        else untilMark mark brackets fuel inside ('[' :: done) ('^' :: ']' :: rest)
      | '[', ']' :: rest =>
        if brackets && !inside then untilMark mark brackets fuel true (']' :: '[' :: done) rest
        else untilMark mark brackets fuel inside ('[' :: done) (']' :: rest)
      | '[', rest => untilMark mark brackets fuel (inside || brackets) ('[' :: done) rest
      | ']', rest => untilMark mark brackets fuel false (']' :: done) rest
      | c, rest => untilMark mark brackets fuel inside (c :: done) rest

/-- An expression with the characters that escapes in it stand for; `fuel` bounds the length. -/
def unescaped : Nat → Text → Text
  | 0, t => t
  | _, [] => []
  | fuel + 1, '\\' :: 'x' :: a :: b :: rest =>
    match Ascii.hexDigit? a, Ascii.hexDigit? b with
    | some x, some y => Char.ofNat (x * 16 + y) :: unescaped fuel rest
    | _, _ => '\\' :: 'x' :: unescaped fuel (a :: b :: rest)
  | fuel + 1, '\\' :: c :: rest =>
    match controls.lookup c with
    | some d => d :: unescaped fuel rest
    | none => '\\' :: c :: unescaped fuel rest
  | fuel + 1, c :: rest => c :: unescaped fuel rest

def pattern (extended : Bool) (manner : Regular.Manner) (t left : Text) : Except Fault Pattern :=
  if t.isEmpty then .ok { regular := none, manner }
  else
    match Regular.read extended (unescaped (t.length + 1) t) with
    | .ok r => .ok { regular := some r, manner }
    | .error f => fault f.message left

def digits (t : Text) : Text := t.takeWhile Ascii.isDigit

def isBlank (c : Char) : Bool := Text.isSpace c && c != '\n'

/-- Letters behind a pattern that say how it compares texts. -/
def manner (t : Text) : Regular.Manner × Text :=
  let letters := t.takeWhile fun c => c == 'I' || c == 'M'
  ({ folds := letters.contains 'I', lines := letters.contains 'M' }, t.drop letters.length)

/-- The address at the beginning of a text, if there is one. -/
def address? (extended : Bool) (t : Text) : Except Fault (Option Address × Text) :=
  let expression (mark : Char) (rest : Text) : Except Fault (Option Address × Text) :=
    match untilMark mark true (rest.length + 1) false [] rest with
    | none => fault "unterminated address regex" []
    | some (p, rest) => do
      let (m, rest) := manner rest
      return (some (.pattern (← pattern extended m p rest)), rest)
  match t with
  | '$' :: rest => .ok (some .last, rest)
  | '/' :: rest => expression '/' rest
  | '\\' :: mark :: rest => expression mark rest
  | t =>
    let n := digits t
    if n.isEmpty then .ok (none, t)
    else
      let rest := (t.drop n.length).dropWhile isBlank
      match rest with
      | '~' :: rest =>
        let step := digits rest
        let (n, every) := (Ascii.digitsValue n, Ascii.digitsValue step)
        .ok (some (if every = 0 then .line n else .step n every), rest.drop step.length)
      | rest => .ok (some (.line (Ascii.digitsValue n)), rest)

def secondAddress (extended : Bool) (t : Text) : Except Fault (Address × Text) := do
  match t with
  | '+' :: rest => return (.more (Ascii.digitsValue (digits rest)), rest.drop (digits rest).length)
  | '~' :: rest => return (.multiple (Ascii.digitsValue (digits rest)), rest.drop (digits rest).length)
  | t =>
    match ← address? extended t with
    | (some (.step first step), rest) => return (if step = 0 then .line first else .multiple step, rest)
    | (some a, rest) => return (a, rest)
    | (none, rest) => fault "unexpected `,'" (rest.drop 1)

def lines (extended : Bool) (t : Text) : Except Fault (Lines × Text) := do
  let (first, rest) ← address? extended t
  let rest := rest.dropWhile isBlank
  let (second, rest) ← match first, rest with
    | some _, ',' :: rest => do
      let (a, rest) ← secondAddress extended (rest.dropWhile isBlank)
      pure (some a, rest)
    | _, rest => pure (none, rest)
  match first, second with
  | some (.line 0), some (.pattern _) => pure ()
  | some (.line 0), _ => fault "invalid usage of line address 0" (rest.drop 1)
  | _, _ => pure ()
  let rest := rest.dropWhile isBlank
  match rest with
  | '!' :: rest =>
    match rest.dropWhile isBlank with
    | '!' :: rest => fault "multiple `!'s" rest
    | rest => return ({ first, second, negated := true }, rest)
  | rest => return ({ first, second }, rest)

def commandEnd (t : Text) : Except Fault Text :=
  match t.dropWhile isBlank with
  | [] => .ok []
  | ';' :: rest | '\n' :: rest => .ok rest
  | t@('\x7d' :: _) | t@('#' :: _) => .ok t
  | _ :: rest => fault "extra characters after command" rest

/-- The parts of what is put in; `fuel` bounds the length. -/
def partsWithin : Nat → Text → List Part
  | 0, _ => []
  | _, [] => []
  | fuel + 1, '&' :: rest => .group 0 :: partsWithin fuel rest
  | fuel + 1, '\\' :: c :: rest =>
    let part : Part :=
      match c with
      | 'U' => .case_ .upper
      | 'L' => .case_ .lower
      | 'E' => .case_ .kept
      | 'u' => .nextCase .upper
      | 'l' => .nextCase .lower
      | c =>
        match Ascii.digit? c with
        | some d => .group d
        | none => .text [(controls.lookup c).getD c]
    part :: partsWithin fuel rest
  | fuel + 1, c :: rest => .text [c] :: partsWithin fuel rest

/-- The letters behind what is put in; `fuel` bounds their number. -/
def flags : Nat → Substitution → Bool → Text → Except Fault (Substitution × Text)
  | 0, s, _, t => .ok (s, t)
  | fuel + 1, s, numbered, t =>
    match t with
    | 'g' :: rest =>
      if s.all then fault "multiple `g' options to `s' command" rest
      else flags fuel { s with all := true } numbered rest
    | 'p' :: rest =>
      if s.prints then fault "multiple `p' options to `s' command" rest
      else flags fuel { s with prints := true } numbered rest
    | 'i' :: rest | 'I' :: rest =>
      flags fuel { s with pattern.manner.folds := true } numbered rest
    | 'm' :: rest | 'M' :: rest =>
      flags fuel { s with pattern.manner.lines := true } numbered rest
    | ' ' :: rest => flags fuel s numbered rest
    | [] => .ok (s, [])
    | ';' :: rest | '\n' :: rest => .ok (s, rest)
    | '\x7d' :: _ | '#' :: _ => .ok (s, t)
    | c :: rest =>
      if Ascii.isDigit c then
        let n := digits t
        let rest' := t.drop n.length
        if numbered then fault "multiple number options to `s' command" rest'
        else if Ascii.digitsValue n = 0 then fault "number option to `s' command may not be zero" rest'
        else flags fuel { s with number := Ascii.digitsValue n } true rest'
      else fault "unknown option to `s'" rest

def substitution (extended : Bool) (t : Text) : Except Fault (Action × Text) := do
  let unterminated {α : Type} : Except Fault α := fault "unterminated `s' command" []
  match t with
  | [] => unterminated
  | mark :: rest =>
    match untilMark mark true (rest.length + 1) false [] rest with
    | none => unterminated
    | some (p, rest) =>
      match untilMark mark false (rest.length + 1) false [] rest with
      | none => unterminated
      | some (new, rest) =>
        let parts := partsWithin (new.length + 1) new
        let (s, rest) ← flags (rest.length + 1) { pattern := { regular := none }, parts } false rest
        let p ← pattern extended s.pattern.manner p rest
        let asked := parts.foldl (fun n part => match part with
          | .group g => max n g
          | _ => n) 0
        match p.regular with
        | some r =>
          if r.groups < asked then
            fault s!"invalid reference \\{asked} on `s' command's RHS" rest
          else return (.substitute { s with pattern := p }, rest)
        | none => return (.substitute { s with pattern := p }, rest)

def plainChars : Text → Text
  | '\\' :: c :: rest => (controls.lookup c).getD c :: plainChars rest
  | c :: rest => c :: plainChars rest
  | [] => []

def charExchange (t : Text) : Except Fault (Action × Text) := do
  let unterminated {α : Type} : Except Fault α := fault "unterminated `y' command" []
  match t with
  | [] => unterminated
  | mark :: rest =>
    match untilMark mark false (rest.length + 1) false [] rest with
    | none => unterminated
    | some (old, rest) =>
      match untilMark mark false (rest.length + 1) false [] rest with
      | none => unterminated
      | some (new, rest) =>
        let (old, new) := (plainChars old, plainChars new)
        if old.length != new.length then fault "strings for `y' command are different lengths" rest
        else return (.exchangeChars (old.zip new), ← commandEnd rest)

/-- The text of a command up to the end of its line; a backslash takes the end of a line into it. `fuel`
bounds the length. -/
def lineText : Nat → Text → Text × Text
  | 0, t => ([], t)
  | _, [] => (['\n'], [])
  | _, '\n' :: rest => (['\n'], rest)
  | _, ['\\'] => (['\n'], [])
  | fuel + 1, '\\' :: c :: rest =>
    let (t, rest) := lineText fuel rest
    (c :: t, rest)
  | fuel + 1, c :: rest =>
    let (t, rest) := lineText fuel rest
    (c :: t, rest)

def text (t : Text) : Except Fault (Text × Text) :=
  let within (t : Text) : Except Fault (Text × Text) := .ok (lineText (t.length + 1) t)
  match t.dropWhile isBlank with
  | [] => fault "expected \\ after `a', `c' or `i'" []
  | ['\\'] => .ok ([], [])
  | '\\' :: rest =>
    match rest.dropWhile isBlank with
    | '\n' :: rest => within rest
    | _ => within rest
  | t => within t

def label (t : Text) : Text × Text :=
  let t := t.dropWhile isBlank
  let name := t.takeWhile fun c => !Text.isSpace c && c != ';' && c != '\x7d'
  (name, t.drop name.length)

def usualWidth : Nat := 70

def action (extended : Bool) (ls : Lines) (c : Char) (t : Text) : Except Fault (Action × Text) := do
  let plain (a : Action) : Except Fault (Action × Text) := return (a, ← commandEnd t)
  let numbered (a : Nat → Action) (usual : Nat) : Except Fault (Action × Text) := do
    let t := t.dropWhile isBlank
    let n := digits t
    return (a (if n.isEmpty then usual else Ascii.digitsValue n), ← commandEnd (t.drop n.length))
  let once (a : Except Fault (Action × Text)) : Except Fault (Action × Text) :=
    if ls.second.isSome then fault "command only uses one address" t else a
  let jump (c : Condition) : Except Fault (Action × Text) := do
    let (name, rest) := label t
    return (.jump c name, ← commandEnd rest)
  let texts (a : Text → Action) : Except Fault (Action × Text) := do
    let (t, rest) ← text t
    return (a t, rest)
  match c with
  | 'p' => plain .print
  | 'P' => plain .printFirst
  | 'd' => plain .delete
  | 'D' => plain .deleteFirst
  | 'n' => plain .next
  | 'N' => plain .join
  | 'q' => once (numbered (.quit · true) 0)
  | 'Q' => once (numbered (.quit · false) 0)
  | '=' => plain .number
  | 'l' => numbered .show_ usualWidth
  | 'h' => plain (.hold false)
  | 'H' => plain (.hold true)
  | 'g' => plain (.get_ false)
  | 'G' => plain (.get_ true)
  | 'x' => plain .exchange
  | 'z' => plain .empty
  | 'b' => jump .always
  | 't' => jump .changed
  | 'T' => jump .unchanged
  | 's' => substitution extended t
  | 'y' => charExchange t
  | 'a' => texts .append
  | 'i' => texts .insert
  | 'c' => texts .change
  | c => .error { what := "unknown command: `".toList ++ [c, '\''], left := t }

/-- Reads commands behind those that were read; `opened` are the places of blocks without an end. `fuel`
bounds their number. -/
def scriptWithin (extended : Bool) : Nat → Script → List Nat → Text → Except Fault Script
  | 0, s, _, _ => .ok s
  | fuel + 1, s, opened, t =>
    match t.dropWhile fun c => Text.isSpace c || c == ';' with
    | [] =>
      if opened.isEmpty then .ok s else .error { what := "unmatched `\x7b'".toList }
    | '#' :: rest => scriptWithin extended fuel s opened (rest.dropWhile (· != '\n'))
    | t => do
      let (ls, rest) ← lines extended t
      let here := s.commands.length
      match rest with
      | [] => fault "missing command" []
      | '#' :: rest => fault "comments don't accept any addresses" rest
      | ':' :: rest =>
        if ls.first.isSome then fault ": doesn't want any addresses" rest
        else
          let (name, rest) := label rest
          if name.isEmpty then fault "\":\" lacks a label" rest
          else scriptWithin extended fuel { s with labels := (name, here) :: s.labels } opened rest
      | '\x7b' :: rest =>
        let c : Command := { lines := ls, action := .block 0 }
        scriptWithin extended fuel { s with commands := s.commands ++ [c] } (here :: opened) rest
      | '\x7d' :: rest =>
        match opened with
        | [] => fault "unexpected `\x7d'" rest
        | place :: opened =>
          let rest ← commandEnd rest
          let closed := s.commands.modify place fun c => { c with action := .block here }
          scriptWithin extended fuel { s with commands := closed } opened rest
      | c :: rest =>
        let (a, rest) ← action extended ls c rest
        scriptWithin extended fuel { s with commands := s.commands ++ [{ lines := ls, action := a }] } opened rest

/-- Why there is no edit: something in its texts, at a place in one of them, or a jump to a label that is
not there. -/
inductive ScriptFault
  | part (number place : Nat) (what : Text)
  | lost (label : Text)
  deriving Repr

def ScriptFault.message : ScriptFault → Text
  | .part number place what =>
    "-e expression #".toList ++ Text.ofNat number ++ ", char ".toList ++ Text.ofNat place ++ [':', ' '] ++ what
  | .lost label => "can't find label for jump to `".toList ++ label ++ ['\'']

def ScriptFault.status : ScriptFault → Nat
  | .part .. => 1
  | .lost _ => 4

/-- Where in some texts, one behind the other, so many characters were read: the number of the text, and
how many of it. -/
def placeOf (texts : List Text) (read : Nat) : Nat × Nat :=
  let (number, before) := texts.foldl (fun (number, before) t =>
    if before + t.length < read then (number + 1, before + t.length + 1) else (number, before)) (1, 0)
  (min number texts.length, read - before)

def Script.read (extended quiet : Bool) (texts : List Text) : Except ScriptFault Script :=
  let whole := ['\n'].intercalate texts
  let quiet := quiet || whole == ['#', 'n'] || ['#', 'n', '\n'].isPrefixOf whole
  match scriptWithin extended (whole.length + 1) { quiet } [] whole with
  | .ok s =>
    let lost := s.commands.findSome? fun c =>
      match c.action with
      | .jump _ name => if name.isEmpty || (s.labels.lookup name).isSome then none else some name
      | _ => none
    lost.elim (.ok s) fun name => .error (.lost name)
  | .error f =>
    let (number, place) := match f.left with
      | none => (1, 0)
      | some left => placeOf texts (whole.length - left.length)
    .error (.part number place f.what)

end DaemonDialogue.Script.Program.Edit
