import DaemonDialogue.Script.Reader.Word

/-!
# Reading scripts: commands

A script is read one command line at a time, so that what is wrong further down only shows
when it is reached. Aliases and keywords count only where a command may begin.
-/

namespace DaemonDialogue.Script.Reader

/-- Where a list of commands stands: on a line of its own, within another command, or as a
script within a word, which alone may be empty. -/
inductive Context
  | line
  | body
  | word
  deriving DecidableEq, Repr, Inhabited

/-- What is looked for where a command may begin on a later line. -/
def anywhere : Check := { lines := true, keywords := true, aliases := true }

def here : Check := { keywords := true, aliases := true }

/-- Stops at the last token, or because another was wanted there. -/
def unexpected {α : Type} (wanted : Option Token) : Parse α := do
  let found := (← get).last
  fail (match wanted with
    | none => .unexpected found
    | some wanted => .expected found wanted)

/-- Gives the last token once more. -/
def readAgain : Parse Unit := modify fun s => { s with again := true }

def single (c : Char) (one two : Token) : Parse Token := do
  let d ← nextJoined
  if d = some c then return two
  back d
  return one

/-- Leaves out the rest of a line. -/
def skipLine : Nat → Parse Unit
  | 0 => return
  | fuel + 1 => do
    match ← next with
    | none => return
    | some '\n' => back (some '\n')
    | some _ => skipLine fuel

/-- The next operator, or none and the character with which a word begins. -/
def readOperator : Nat → Parse (Option Token × Option Char)
  | 0 => return (some .endOfFile, none)
  | fuel + 1 => do
    let c ← nextJoined
    let found (t : Token) : Option Token × Option Char := (some t, none)
    match c with
    | none => return found .endOfFile
    | some ' ' | some '\t' => readOperator fuel
    | some '#' =>
      skipLine fuel
      readOperator fuel
    | some '\n' =>
      newLine
      return found .newline
    | some '&' => return found (← single '&' .background .both)
    | some '|' => return found (← single '|' .pipe .either)
    | some ';' => return found (← single ';' .semicolon .endOfCase)
    | some '(' => return found .open_
    | some ')' => return found .close
    | c => return (none, c)

/-- The alias of a word, unless it is what is read just now. -/
def alias? : Parse (Option (Text × Text)) := do
  let s ← get
  match Word.plain? s.word with
  | none => return none
  | some name =>
    if s.busy.contains name || s.strips.any fun strip => strip.alias_ == some name then return none
    else return (s.aliases.lookup name).map fun value => (name, value)

def readAlias (name value : Text) : Parse Unit := modify fun s =>
  let opens := value.getLast? == some ' ' || value.getLast? == some '\t'
  if value.isEmpty then s else { s with strips := ⟨value, some name, opens⟩ :: s.strips }

def required (c : Option Command) : Parse Command :=
  match c with
  | some c => return c
  | none => unexpected none

def redirected (line : Nat) (c : Command) (redirects : List Redirect) : Command :=
  match c, redirects with
  | c, [] => c
  | .subshell l body _, redirects => .subshell l body redirects
  | c, redirects => .redirected line c redirects

def inBackground (line : Nat) : Command → Command
  | .pipeline stages _ => .pipeline stages true
  | .redirected l body redirects => .background l body redirects
  | c => .background line c []

def specialNames : List String :=
  [":", ".", "break", "continue", "eval", "exec", "exit", "export", "readonly", "return", "set",
    "shift", "times", "trap", "unset"]

mutual

def readToken : Nat → Parse Token
  | 0 => return .endOfFile
  | fuel + 1 => do
    let check := (← get).check
    let t ← readRaw fuel
    let t ← if check.lines then skipNewlines fuel t else pure t
    let s ← get
    let check : Check := { check with
      keywords := check.keywords || s.check.keywords, aliases := check.aliases || s.check.aliases }
    setCheck {}
    let found (t : Token) : Parse Token := do
      modify fun s => { s with last := t }
      return t
    if t != .word || s.quoted then found t
    else
      match if check.keywords then (Word.plain? s.word).bind Keyword.ofText? else none with
      | some k => found (.keyword k)
      | none =>
        if !check.aliases then found t
        else
          match ← alias? with
          | none => found t
          | some (name, value) =>
            readAlias name value
            setCheck check
            readToken fuel

def skipNewlines : Nat → Token → Parse Token
  | 0, t => return t
  | fuel + 1, t => do
    if t = .newline then
      readDocuments (readList fuel .word) (readClosing fuel) fuel
      setCheck {}
      skipNewlines fuel (← readRaw fuel)
    else return t

def readRaw : Nat → Parse Token
  | 0 => return .endOfFile
  | fuel + 1 => do
    let s ← get
    if s.again then
      set { s with again := false }
      return s.last
    let (t, c) ← readOperator fuel
    let t ← match t with
      | some t => pure t
      | none => readWord (readList fuel .word) (readClosing fuel) fuel c
    modify fun s => { s with last := t }
    return t

/-- Reads the parenthesis behind a script within a word. -/
def readClosing : Nat → Parse Unit
  | 0 => unexpected (some .close)
  | fuel + 1 => do
    if (← readToken fuel) != .close then unexpected (some .close)

/-- Reads commands up to what ends them; none where there are none. -/
def readList : Nat → Context → Parse (Option Command)
  | 0, _ => return none
  | fuel + 1, context => readMore fuel context (context = .word) none

/-- Reads on in a list behind `before`; `mayEnd` says whether it may end here. -/
def readMore : Nat → Context → Bool → Option Command → Parse (Option Command)
  | 0, _, _, before => return before
  | fuel + 1, context, mayEnd, before => do
    let onLine : Bool := context = .line
    setCheck { anywhere with lines := !onLine }
    let t ← readToken fuel
    let documents := readDocuments (readList fuel .word) (readClosing fuel) fuel
    if t = .newline then
      documents
      return before
    if t = .endOfFile then
      documents
      modify fun s => { s with again := true, last := .endOfFile }
      return before
    readAgain
    if !onLine && mayEnd && t.endsList then return before
    let line := (← get).line
    let c ← readAndOr fuel
    let t ← readToken fuel
    let c := if t = .background then inBackground line c else c
    let all := match before with
      | none => c
      | some b => .sequence b c
    match t with
    | .newline | .endOfFile =>
      readAgain
      readMore fuel context true (some all)
    | .background | .semicolon => readMore fuel context true (some all)
    | _ =>
      if onLine then unexpected none
      readAgain
      return some all

def readAndOr : Nat → Parse Command
  | 0 => unexpected none
  | fuel + 1 => do readOr fuel (← readPipeline fuel)

/-- Reads on behind the first command of some that depend on how those before them end. -/
def readOr : Nat → Command → Parse Command
  | 0, first => return first
  | fuel + 1, first => do
    match ← readToken fuel with
    | .both =>
      setCheck anywhere
      readOr fuel (.both first (← readPipeline fuel))
    | .either =>
      setCheck anywhere
      readOr fuel (.either first (← readPipeline fuel))
    | _ =>
      readAgain
      return first

def readPipeline : Nat → Parse Command
  | 0 => unexpected none
  | fuel + 1 => do
    let negated := (← readToken fuel) == .keyword .not
    if negated then setCheck here else readAgain
    let first ← readCommand fuel
    let stages ← readStages fuel [first]
    let c := match stages with
      | [c] => c
      | stages => .pipeline stages false
    return if negated then .negation c else c

def readStages : Nat → List Command → Parse (List Command)
  | 0, stages => return stages.reverse
  | fuel + 1, stages => do
    match ← readToken fuel with
    | .pipe =>
      setCheck anywhere
      readStages fuel ((← readCommand fuel) :: stages)
    | _ =>
      readAgain
      return stages.reverse

def readPart : Nat → Keyword → Parse Command
  | 0, _ => unexpected none
  | fuel + 1, k => do
    let c ← readList fuel .body
    if (← readToken fuel) != .keyword k then unexpected (some (.keyword k))
    required c

def readChoice : Nat → Parse Command
  | 0 => unexpected none
  | fuel + 1 => do
    let condition ← readPart fuel .then_
    let yes ← readList fuel .body
    match ← readToken fuel with
    | .keyword .elif => return .choice condition (← required yes) (some (← readChoice fuel))
    | .keyword .else_ =>
      let no ← readList fuel .body
      if (← readToken fuel) != .keyword .fi then unexpected (some (.keyword .fi))
      return .choice condition (← required yes) no
    | t =>
      if t != .keyword .fi then unexpected (some (.keyword .fi))
      return .choice condition (← required yes) none

def readWords : Nat → List Word → Parse (List Word)
  | 0, words => return words.reverse
  | fuel + 1, words => do
    if (← readToken fuel) = .word then readWords fuel ((← get).word :: words)
    else return words.reverse

/-- Reads the patterns of a case, the first of which was read. -/
def readPatterns : Nat → List Word → Parse (List Word)
  | 0, words => return words.reverse
  | fuel + 1, words => do
    let words := (← get).word :: words
    if (← readToken fuel) = .pipe then
      let _ ← readToken fuel
      readPatterns fuel words
    else return words.reverse

def readCases : Nat → List (List Word × Option Command) →
    Parse (List (List Word × Option Command))
  | 0, cases => return cases.reverse
  | fuel + 1, cases => do
    setCheck { anywhere with aliases := false }
    let t ← readToken fuel
    if t = .keyword .esac then return cases.reverse
    if t = .open_ then
      let _ ← readToken fuel
    let patterns ← readPatterns fuel []
    if (← get).last != .close then unexpected (some .close)
    let body ← readList fuel .word
    setCheck { anywhere with aliases := false }
    match ← readToken fuel with
    | .keyword .esac => return ((patterns, body) :: cases).reverse
    | .endOfCase => readCases fuel ((patterns, body) :: cases)
    | _ => unexpected (some .endOfCase)

def readRedirects : Nat → List Redirect → Parse (List Redirect)
  | 0, rs => return rs.reverse
  | fuel + 1, rs => do
    match ← readToken fuel with
    | .redirection => readRedirects fuel ((← readTarget fuel) :: rs)
    | _ =>
      readAgain
      return rs.reverse

def readTarget : Nat → Parse Redirect
  | 0 => unexpected none
  | fuel + 1 => do
    let r := (← get).redirect
    if r matches .document .. then setCheck { mark := true }
    if (← readToken fuel) != .word then unexpected none
    let s ← get
    match r with
    | .open_ n mode _ => return .open_ n mode s.word
    | .copy n _ => return .copy n s.word
    | .document n number =>
      let known (a : Awaited) : Awaited :=
        if a.number = number then { a with mark := Word.characters s.word, verbatim := s.quoted }
        else a
      set { s with awaited := s.awaited.map known }
      return .document n number

def readCommand : Nat → Parse Command
  | 0 => unexpected none
  | fuel + 1 => do
    let line := (← get).line
    let finish (c : Command) : Parse Command := do
      setCheck here
      return redirected line c (← readRedirects fuel [])
    match ← readToken fuel with
    | .keyword .if_ => finish (← readChoice fuel)
    | .keyword .while_ =>
      let condition ← readPart fuel .do_
      finish (.loop false condition (← readPart fuel .done))
    | .keyword .until_ =>
      let condition ← readPart fuel .do_
      finish (.loop true condition (← readPart fuel .done))
    | .keyword .for_ =>
      let t ← readToken fuel
      let s ← get
      match if t = .word && !s.quoted then Word.plain? s.word else none with
      | none => fail .badVariable
      | some name =>
        if !Text.isName name then fail .badVariable
        setCheck anywhere
        let words ← if (← readToken fuel) = .keyword .in_ then do
            let words ← readWords fuel []
            let t := (← get).last
            if t != .newline && t != .semicolon then unexpected none
            pure words
          else do
            if (← get).last != .semicolon then readAgain
            pure [[.quote, .parameter ['@'] .value false [], .quote]]
        setCheck anywhere
        if (← readToken fuel) != .keyword .do_ then unexpected (some (.keyword .do_))
        finish (.each line name words (← readPart fuel .done))
    | .keyword .case_ =>
      if (← readToken fuel) != .word then unexpected (some .word)
      let subject := (← get).word
      setCheck anywhere
      if (← readToken fuel) != .keyword .in_ then unexpected (some (.keyword .in_))
      finish (.select line subject (← readCases fuel []))
    | .open_ =>
      let body ← readList fuel .body
      if (← readToken fuel) != .close then unexpected (some .close)
      finish (.subshell line (← required body) [])
    | .keyword .begin_ => finish (← readPart fuel .end_)
    | .word | .redirection =>
      readAgain
      readSimple fuel (← get).line true [] [] []
    | _ => unexpected none

/-- Reads on in a simple command; `leading` while no word of it was read that is not an
assignment. -/
def readSimple : Nat → Nat → Bool → List Word → List Word → List Redirect → Parse Command
  | 0, line, _, assignments, words, rs =>
    return .simple line assignments.reverse words.reverse rs.reverse
  | fuel + 1, line, leading, assignments, words, rs => do
    setCheck { aliases := leading }
    let finish : Parse Command := do
      readAgain
      return .simple line assignments.reverse words.reverse rs.reverse
    match ← readToken fuel with
    | .word =>
      let w := (← get).word
      if leading && Word.isAssignment w then
        readSimple fuel line true (w :: assignments) words rs
      else readSimple fuel line false assignments (w :: words) rs
    | .redirection => do
      let r ← readTarget fuel
      readSimple fuel line leading assignments words (r :: rs)
    | .open_ =>
      match assignments, words, rs with
      | [], [w], [] =>
        if (← readToken fuel) != .close then unexpected (some .close)
        match Word.plain? w with
        | none => fail .badFunctionName
        | some name =>
          if !Text.isName name || specialNames.contains (String.ofList name) then
            fail .badFunctionName
          setCheck anywhere
          let line := (← get).line
          return .definition line name (← readCommand fuel)
      | _, _, _ => finish
    | _ => finish

end

/-- Reads a text as if it stood in double quotes. -/
def readQuoted (fuel : Nat) : Parse Word :=
  readDocument (readList fuel .word) (readClosing fuel) fuel ⟨0, ['\x00'], false, false⟩

/-- Reads the next command line: none behind the last one, none inside on an empty line. -/
def readLine (fuel : Nat) : Parse (Option (Option Command)) := do
  modify fun s => { s with again := false, check := {}, awaited := [] }
  match ← readList fuel .line with
  | some c => return some (some c)
  | none =>
    let s ← get
    return if s.again && s.last = .endOfFile then none else some none

/-- How many steps the reading of some text takes at most. -/
def fuelFor (s : State) : Nat :=
  16 * (size s + Text.total (s.aliases.map fun a => a.2.length) * 16) + 1000

end DaemonDialogue.Script.Reader
