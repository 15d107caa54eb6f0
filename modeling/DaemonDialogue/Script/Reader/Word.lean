import DaemonDialogue.Script.Reader.Basic

/-!
# Reading scripts: words

A word ends at a blank or an operator that stands outside of quotes and of what is nested
in it. The same rules read a document, which ends at its mark.
-/

namespace DaemonDialogue.Script.Reader

/-- What characters mean: outside of quotes, within single or double ones, or in an
arithmetic expression. -/
inductive Mode
  | plain
  | single
  | double
  | arithmetic
  deriving DecidableEq, Repr, Inhabited

/-- Where the reader stands: `shields` says whether backslashes shield little, `inner` whether
quotes are open within a parameter, `depth` how many parameters are open at this level,
`shieldedDepth` how many of them in quotes, and `parentheses` how many of those. -/
structure Level where
  mode : Mode
  shields : Bool := false
  inner : Bool := false
  depth : Nat := 0
  shieldedDepth : Nat := 0
  parentheses : Nat := 0
  deriving Repr, Inhabited

/-- A piece that is not closed yet. -/
inductive Holder
  | parameter (name : Text) (use : Use) (emptyCounts : Bool)
  | arithmetic
  deriving Repr, Inhabited

def Holder.piece (pieces : List Piece) : Holder → Piece
  | .parameter name use emptyCounts => .parameter name use emptyCounts pieces
  | .arithmetic => .arithmetic pieces

/-- A word on the way: its pieces so far, the last one first, and those around the pieces that
are open. -/
structure Draft where
  level : Level
  outer : List Level := []
  pieces : List Piece := []
  holders : List (Holder × List Piece) := []
  quoted : Bool := false
  deriving Inhabited

namespace Draft

def add (d : Draft) (p : Piece) : Draft := { d with pieces := p :: d.pieces }

def enter (d : Draft) (h : Holder) : Draft :=
  { d with holders := (h, d.pieces) :: d.holders, pieces := [] }

/-- Closes the piece that was opened last. -/
def leave (d : Draft) : Draft :=
  match d.holders with
  | (h, before) :: rest => { d with holders := rest, pieces := h.piece d.pieces.reverse :: before }
  | [] => d

def push (d : Draft) (l : Level) : Draft := { d with level := l, outer := d.level :: d.outer }

def pop (d : Draft) : Draft :=
  match d.outer with
  | l :: rest => { d with level := l, outer := rest }
  | [] => d

end Draft

/-- The document that is read: the line at its end, and whether tabs are left out. -/
structure Ending where
  mark : Text
  noTabs : Bool
  deriving Repr, Inhabited

def nextIn (l : Level) : Parse (Option Char) :=
  if l.mode = .single then next else nextJoined

/-- At the beginning of a line with first character `c`: none where the line ends the document,
or the character that is read next. -/
def atLineStart (fuel : Nat) (e : Ending) (c : Option Char) : Parse (Option (Option Char)) := do
  let c ← if e.noTabs then skipTabs fuel c else pure c
  back c
  if ← takeText e.mark then
    match ← next with
    | none =>
      newLine
      return none
    | some '\n' =>
      newLine
      return none
    | d =>
      back d
      e.mark.reverse.forM fun m => back (some m)
      return some (← next)
  else return some (← next)
where
  skipTabs : Nat → Option Char → Parse (Option Char)
    | fuel + 1, some '\t' => do skipTabs fuel (← next)
    | _, c => return c

def isSpecial (c : Char) : Bool := "!#$*-?@".toList.contains c || Ascii.isDigit c

/-- What a character behind the name of a parameter asks for. -/
def useOf? : Char → Option Use
  | '\x7d' => some .value
  | '-' => some .otherwise
  | '+' => some .instead
  | '?' => some .complain
  | '=' => some .assign
  | _ => none

/-- Reads what a parameter in braces asks for, given the character behind its name. -/
def readUse (c : Option Char) : Parse (Use × Bool) := do
  match c with
  | some ':' =>
    let d ← nextJoined
    return ((d.bind useOf?).getD .unknown, true)
  | some '%' =>
    let d ← nextJoined
    if d = some '%' then return (.cutBack true, false)
    back d
    return (.cutBack false, false)
  | some '#' =>
    let d ← nextJoined
    if d = some '#' then return (.cutFront true, false)
    back d
    return (.cutFront false, false)
  | c => return ((c.bind useOf?).getD .unknown, false)

/-- The name of a parameter that begins with `c`, and the character behind it; only within
braces does a number have more than one digit. -/
def readParameterName (fuel : Nat) (braces : Bool) (c : Char) : Parse (Text × Option Char) := do
  if Text.isNameStart c then nameFrom fuel Text.isNameChar (some c) []
  else if Ascii.isDigit c && braces then nameFrom fuel Ascii.isDigit (some c) []
  else return ([c], ← nextJoined)

/-- Reads a parameter in braces, up to the word within them; nothing is left of one that asks
for its value alone. -/
def readBraced (fuel : Nat) : Parse (Text × Use × Bool) := do
  let c ← nextJoined
  let start (c : Char) : Bool := Text.isNameStart c || Ascii.isDigit c
  let usual (name : Text) (c : Option Char) : Parse (Text × Use × Bool) := do
    let (use, emptyCounts) ← readUse c
    return (name, use, emptyCounts)
  match c with
  | some '#' =>
    let d ← nextJoined
    match d with
    | some d =>
      if start d then
        let (name, e) ← readParameterName fuel true d
        back e
        return (name, if e = some '\x7d' then .length else .unknown, false)
      else
        let e ← nextJoined
        if d == '\x7d' || e != some '\x7d' then
          back e
          usual ['#'] (some d)
        else
          back e
          return ([d], if isSpecial d then .length else .unknown, false)
    | none => usual ['#'] none
  | some '\x7d' =>
    back c
    return ([], .unknown, false)
  | some c =>
    if start c then
      let (name, d) ← readParameterName fuel true c
      usual name d
    else
      let d ← nextJoined
      if isSpecial c then usual [c] d
      else
        back d
        return ([], .unknown, false)
  | none => return ([], .unknown, false)

def readBackquoted (shields : Bool) : Nat → Text → Parse Text
  | 0, _ => fail .unterminatedBackquotes
  | fuel + 1, text => do
    match ← nextJoined with
    | none => fail .unterminatedBackquotes
    | some '\x60' => return text.reverse
    | some '\\' =>
      match ← next with
      | none => fail .unterminatedBackquotes
      | some c =>
        if c == '\\' || c == '\x60' || c == '$' || (shields && c == '"') then
          readBackquoted shields fuel (c :: text)
        else readBackquoted shields fuel (c :: '\\' :: text)
    | some '\n' =>
      newLine
      readBackquoted shields fuel ('\n' :: text)
    | some c => readBackquoted shields fuel (c :: text)

/-- Reads a script within a word, keeping apart what is known of the script around it. -/
def readInner (script : Parse (Option Command)) (closed : Bool) : Parse Piece := do
  let outer ← get
  set { outer with awaited := [] }
  let c ← script
  let s ← get
  if closed then
    let s := { s with
      awaited := []
      documents := s.awaited.map (fun (a : Awaited) => (a.number, [])) ++ s.documents }
    set { s with awaited := outer.awaited }
  else set { s with awaited := outer.awaited, again := false }
  return .output c

def readBackquotedScript (script : Parse (Option Command)) (shields : Bool) (fuel : Nat) :
    Parse Piece := do
  let text ← readBackquoted shields fuel []
  let outer ← get
  set { outer with
    strips := [⟨text, none, false⟩], complete := true, line := 1
    busy := outer.strips.filterMap Strip.alias_ ++ outer.busy }
  let piece ← readInner script false
  modify fun s => { s with
    strips := outer.strips, complete := outer.complete, line := outer.line, busy := outer.busy }
  return piece

def readDollar (script : Parse (Option Command)) (closing : Parse Unit) (fuel : Nat) (d : Draft) :
    Parse Draft := do
  let c ← nextJoined
  match c with
  | some '(' =>
    let e ← nextJoined
    if e = some '(' then
      return (d.enter .arithmetic).push { mode := .arithmetic, shields := true }
    else
      back e
      let piece ← readInner (do let c ← script; closing; return c) true
      return d.add piece
  | some '\x7b' =>
    let (name, use, emptyCounts) ← readBraced fuel
    if use = .value && !emptyCounts then return d.add (.parameter name .value false [])
    else
      let mode := match use with
        | .cutFront _ | .cutBack _ => .plain
        | _ => if d.level.mode = .arithmetic then .double else d.level.mode
      let d := d.enter (.parameter name use emptyCounts)
      let d := if mode != d.level.mode || d.level.inner then
          d.push { mode, shields := mode != .plain }
        else d
      let l := d.level
      return { d with level := { l with
        depth := l.depth + 1
        shieldedDepth := if l.shields then l.shieldedDepth + 1 else l.shieldedDepth } }
  | some e =>
    if Text.isNameStart e || isSpecial e then
      let (name, f) ← readParameterName fuel false e
      back f
      return d.add (.parameter name .value false [])
    else
      back c
      return d.add (.char '$')
  | none => return d.add (.char '$')

/-- A closing brace, which ends the parameter that was opened last unless quotes are open in
it. -/
def closeBrace (d : Draft) : Draft :=
  let l := d.level
  if !l.inner && 0 < l.depth then
    let d := d.leave
    if l.depth = 1 && !d.outer.isEmpty then d.pop
    else { d with level := { l with depth := l.depth - 1, shieldedDepth := l.shieldedDepth - 1 } }
  else d.add (.char '\x7d')

def readShielded (document : Bool) (d : Draft) : Parse Draft := do
  match ← next with
  | none => return d.add (.shielded '\\')
  | some c =>
    let l := d.level
    let kept := l.shields && c != '\\' && c != '\x60' && c != '$' &&
      (c != '"' || (document && l.depth = 0)) && (c != '\x7d' || l.depth = 0)
    let d := if kept then d.add (.shielded '\\') else d
    return { d.add (.shielded c) with quoted := true }

/-- A mark of quotes; within documents quotes have none. -/
def quoteMark (document : Bool) (d : Draft) : Draft :=
  if document then d else d.add .quote

/-- A double quote that begins or ends quotes. -/
def toggleInner (d : Draft) : Draft :=
  let l := d.level
  if 0 < l.depth then { d with level := { l with inner := !l.inner } } else d

def endQuotes (document : Bool) (c : Char) (d : Draft) : Draft :=
  if document && d.level.depth = 0 then d.add (.char c)
  else
    let l := d.level
    let l := if l.shieldedDepth = 0 then { l with mode := .plain, shields := false } else l
    let d := { d with level := l, quoted := true }
    quoteMark document (if c == '"' then toggleInner d else d)

def isOperator (c : Char) : Bool := "<>();&| \t".toList.contains c

/-- Reads on in a word, given the next character, and gives the character behind it. -/
def readOn (script : Parse (Option Command)) (closing : Parse Unit) (document : Option Ending) :
    Nat → Draft → Option Char → Parse (Draft × Option Char)
  | 0, d, c => return (d, c)
  | fuel + 1, d, c => do
    let on (d : Draft) : Parse (Draft × Option Char) := do
      readOn script closing document fuel d (← nextIn d.level)
    let isDocument := document.isSome
    match c, d.level.mode with
    | none, _ => return (d, none)
    | some '\n', mode =>
      if mode = .plain && d.level.depth = 0 then return (d, c)
      else
        let d := d.add (.char '\n')
        newLine
        let e ← nextIn d.level
        match document with
        | none => readOn script closing document fuel d e
        | some ending =>
          match ← atLineStart fuel ending e with
          | none => return (d, none)
          | some e => readOn script closing document fuel d e
    | some '\'', .single => on (endQuotes isDocument '\'' d)
    | some c, .single => on (d.add (.shielded c))
    | some '\\', _ => on (← readShielded isDocument d)
    | some '$', _ =>
      if (← get).check.mark then on (d.add (.char '$'))
      else on (← readDollar script closing fuel d)
    | some '\x60', _ =>
      if (← get).check.mark then on { d.add (.char '\x60') with quoted := true }
      else on (d.add (← readBackquotedScript script d.level.shields fuel))
    | some '\x7d', _ => on (closeBrace d)
    | some '"', .double => on (endQuotes isDocument '"' d)
    | some '"', .plain =>
      let d := { d with level := { d.level with mode := .double, shields := true } }
      on (quoteMark isDocument (toggleInner d))
    | some '\'', .plain =>
      on (quoteMark isDocument { d with level := { d.level with mode := .single } })
    | some '(', .arithmetic =>
      on { d.add (.char '(') with level := { d.level with parentheses := d.level.parentheses + 1 } }
    | some ')', .arithmetic =>
      if 0 < d.level.parentheses then
        on { d.add (.char ')') with level := { d.level with parentheses := d.level.parentheses - 1 } }
      else
        let e ← nextJoined
        if e = some ')' then on d.leave.pop
        else
          back e
          on (d.add (.char ')'))
    | some c, .double => on (d.add (.shielded c))
    | some c, .arithmetic => on (d.add (.char c))
    | some c, .plain =>
      if isOperator c && d.level.depth = 0 then return (d, some c) else on (d.add (.char c))

/-- The text of a word that a descriptor may be, if it is no more than a digit. -/
def descriptor? (pieces : List Piece) : Option (Option Nat) :=
  match pieces with
  | [] => some none
  | [.char c] => (Ascii.digit? c).map some
  | _ => none

def checkComplete (document : Bool) (l : Level) : Parse Unit := do
  if l.mode = .arithmetic then fail .missingParentheses
  if l.mode != .plain && !document then fail .unterminatedQuotes
  if l.depth != 0 then fail .missingBrace

/-- Reads the text of a document behind the line that asks for it. -/
def readDocument (script : Parse (Option Command)) (closing : Parse Unit) (fuel : Nat)
    (a : Awaited) : Parse Word := do
  let mode : Mode := if a.verbatim then .single else .double
  let ending : Ending := ⟨a.mark, a.noTabs⟩
  let level : Level := { mode, shields := !a.verbatim }
  let c ← nextIn level
  match ← atLineStart fuel ending c with
  | none => return []
  | some c =>
    let d : Draft := { level }
    let (d, _) ← readVerbatim ending fuel d c
    checkComplete true d.level
    return d.pieces.reverse
where
  readVerbatim (ending : Ending) (fuel : Nat) (d : Draft) (c : Option Char) :
      Parse (Draft × Option Char) :=
    readOn script closing (some ending) fuel d c

def readDocuments (script : Parse (Option Command)) (closing : Parse Unit) (fuel : Nat) :
    Parse Unit := do
  let awaited := (← get).awaited
  modify fun s => { s with awaited := [] }
  awaited.forM fun a => do
    let body ← readDocument script closing fuel a
    modify fun s => { s with documents := (a.number, body) :: s.documents }

def readRedirection (c : Char) (descriptor : Option Nat) : Parse Unit := do
  let d ← nextJoined
  let found (r : Redirect) : Parse Unit := modify fun s => { s with redirect := r }
  if c == '>' then
    let n := descriptor.getD 1
    match d with
    | some '>' => found (.open_ n .append [])
    | some '|' => found (.open_ n .overwrite [])
    | some '&' => found (.copy n [])
    | d =>
      back d
      found (.open_ n .write [])
  else
    let n := descriptor.getD 0
    match d with
    | some '<' =>
      let e ← nextJoined
      let number := (← get).nextDocument
      if e != some '-' then back e
      modify fun s => { s with
        redirect := .document n number
        nextDocument := number + 1
        awaited := s.awaited ++ [⟨number, [], e = some '-', false⟩] }
    | some '&' => found (.copy n [])
    | some '>' => found (.open_ n .readWrite [])
    | d =>
      back d
      found (.open_ n .read [])

def readWord (script : Parse (Option Command)) (closing : Parse Unit) (fuel : Nat)
    (c : Option Char) : Parse Token := do
  let (d, c) ← readOn script closing none fuel { level := { mode := .plain } } c
  checkComplete false d.level
  let word := d.pieces.reverse
  match c, d.quoted, descriptor? word with
  | some '<', false, some n =>
    readRedirection '<' n
    return .redirection
  | some '>', false, some n =>
    readRedirection '>' n
    return .redirection
  | c, _, _ =>
    back c
    modify fun s => { s with word, quoted := d.quoted }
    return .word

end DaemonDialogue.Script.Reader
