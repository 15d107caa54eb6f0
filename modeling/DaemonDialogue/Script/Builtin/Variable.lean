import DaemonDialogue.Script.Builtin.Basic
import DaemonDialogue.Script.Shell.Listing

/-!
# Commands about variables and settings

Variables are declared, made local to a function and taken away; arguments are set, shifted
and read as options.
-/

namespace DaemonDialogue.Script.Builtin

open Act

/-- The name and the value of an argument that has the form of an assignment. -/
def splitAssignment (argument : Text) : Text × Option Text :=
  match Cut.atFirst? '=' argument with
  | some (name, value) => (name, some value)
  | none => (argument, none)

/-- Gives a value to a variable; false at a fault. -/
def setVariable (name value : Text) : Act Bool := do
  match (← shell).set name value with
  | .ok sh =>
    modifyShell fun _ => sh
    return true
  | .error r =>
    fault r.message
    return false

def markAll (mark : Variables → Text → Variables) : List Text → Act Unit
  | [] => setStatus 0
  | argument :: rest => do
    let (name, value) := splitAssignment argument
    let known := ((← shell).bindings.find? name).isSome
    let fine ← match value with
      | some value => setVariable name value
      | none =>
        if known || Text.isName name then pure true
        else do
          fault (Shell.Refusal.badName name).message
          pure false
    if fine then
      modifyShell fun sh => { sh with bindings := mark sh.bindings name }
      markAll mark rest

def runDeclare (word : String) (mark : Variables → Text → Variables) (isMarked : Variable → Bool)
    (arguments : List Text) : Act Unit := do
  match options [('p', false)] arguments with
  | .error e => fault e
  | .ok (found, left) =>
    if found.isEmpty && !left.isEmpty then markAll mark left
    else reply ((← shell).variableListing word.toList isMarked) 0

/-- Keeps what a variable is now for the end of the function. -/
def keep (k : Kept) : Act Unit := modifySelf fun p =>
  match p.locals with
  | level :: rest => { p with locals := (k :: level) :: rest }
  | [] => p

/-- Makes a variable local, perhaps with a value; one that is assigned before a command is seen
by programs. -/
def makeLocal (exported : Bool) (argument : Text) : Act Bool := do
  let (name, value) := splitAssignment argument
  let sh ← shell
  if argument == ['-'] then
    keep (.settings sh.settings)
    return true
  else
    let old := sh.bindings.find? name
    if old.isNone && !Text.isName name then
      fault (Shell.Refusal.badName name).message
      return false
    else
      keep (.variable name old)
      if old.isNone then
        modifyShell fun sh => { sh with bindings := sh.bindings.put name (some {}) }
      let fine ← match value with
        | some value => setVariable name value
        | none => pure true
      if exported && fine then
        modifyShell fun sh => { sh with bindings := sh.bindings.export_ name }
      return fine

def makeAllLocal : List Text → Act Unit
  | [] => setStatus 0
  | argument :: rest => do
    if ← makeLocal false argument then makeAllLocal rest

def runLocal (arguments : List Text) : Act Unit := do
  if (← self).locals.isEmpty then fault "not in a function".toList
  else makeAllLocal arguments

def unsetAll (functions : Bool) : List Text → Act Unit
  | [] => setStatus 0
  | name :: rest => do
    if functions then
      modifyShell fun sh => { sh with functions := sh.functions.filter fun f => f.1 != name }
      unsetAll functions rest
    else
      match (← shell).unset name with
      | .ok sh =>
        modifyShell fun _ => sh
        unsetAll functions rest
      | .error r => fault r.message

def runUnset (arguments : List Text) : Act Unit := do
  match options [('v', false), ('f', false)] arguments with
  | .error e => fault e
  | .ok (found, left) => unsetAll ((found.getLast?.map (·.1)) == some 'f') left

def withArguments (s : Shell) (arguments : List Text) : Shell := { s with arguments, cursor := {} }

/-- Puts a setting on or off, given its letter. -/
def putLetter (value : Bool) (c : Char) : Act Bool := do
  match Setting.ofLetter? c with
  | some x =>
    modifyShell fun sh => { sh with settings := sh.settings.put x value }
    return true
  | none =>
    fault ("Illegal option -".toList ++ [c])
    return false

/-- Puts settings on or off as the letters of an argument say; the letter for a setting by name takes
the next argument. What is listed comes first, none inside at a fault. -/
def putLetters (value : Bool) : Text → List Text → Act (Option (Text × List Text))
  | [], rest => return some ([], rest)
  | 'o' :: letters, rest => do
    match rest with
    | [] =>
      let settings := (← shell).settings
      let listing := if value then settings.listing else settings.commands
      return (← putLetters value letters []).map fun (more, rest) => (listing ++ more, rest)
    | name :: rest =>
      match Setting.ofName? name with
      | some x =>
        modifyShell fun sh => { sh with settings := sh.settings.put x value }
        putLetters value letters rest
      | none =>
        fault ("Illegal option -o ".toList ++ name)
        return none
  | c :: letters, rest => do
    if ← putLetter value c then putLetters value letters rest else return none

/-- Puts settings on or off as long as arguments ask for it; what is listed, and the arguments that
are left, none of them where the old ones stay. `fuel` bounds the number of arguments. -/
def putSettings : Nat → Text → List Text → Act (Option (Text × Option (List Text)))
  | 0, out, _ => return some (out, none)
  | fuel + 1, out, arguments => do
    match arguments with
    | [] => return some (out, none)
    | ['-'] :: rest =>
      modifyShell fun sh => { sh with settings := (sh.settings.put .xtrace false).put .verbose false }
      return some (out, if rest.isEmpty then none else some rest)
    | ['-', '-'] :: rest => return some (out, some rest)
    | ('-' :: letters) :: rest =>
      match ← putLetters true letters rest with
      | some (listing, rest) => putSettings fuel (out ++ listing) rest
      | none => return none
    | ('+' :: letters) :: rest =>
      match ← putLetters false letters rest with
      | some (listing, rest) => putSettings fuel (out ++ listing) rest
      | none => return none
    | rest => return some (out, some rest)

/-- Job control needs a terminal. -/
def refuseMonitor : Act Unit := do
  if (← shell).has .monitor then
    complain "can't access tty; job control turned off".toList
    modifyShell fun sh => { sh with settings := sh.settings.put .monitor false }

/-- Puts settings on or off, sets the arguments, or lists the variables. -/
def runSet (arguments : List Text) : Act Unit := do
  if arguments.isEmpty then reply ((← shell).variableListing [] fun v => v.value.isSome) 0
  else
    match ← putSettings (arguments.length + 1) [] arguments with
    | none => pure ()
    | some (out, left) =>
      refuseMonitor
      match left with
      | some left => modifyShell fun sh => withArguments sh left
      | none => pure ()
      reply out 0

def runShift (arguments : List Text) : Act Unit := do
  match arguments with
  | [] => drop 1
  | t :: _ =>
    match Number.count? t with
    | some n => drop n
    | none => illegalNumber t
where
  drop (n : Nat) : Act Unit := do
    let sh ← shell
    if sh.arguments.length < n then fault "can't shift that many".toList
    else
      modifyShell fun sh => withArguments sh (sh.arguments.drop n)
      setStatus 0

/-- What comes of looking for the next option: its letter, its argument if it has a value or is
taken away, what is said, the place behind it, and whether there was none. -/
structure NextOption where
  letter : Char := '?'
  argument : Option (Option Text) := none
  warning : Text := []
  cursor : OptionCursor
  atEnd : Bool := false

/-- The option of a letter whose word goes on with `rest`; `index` counts the next word. -/
def optionOf (spec : Text) (all : List Text) (c : Char) (rest : Text) (index offset : Nat) :
    NextOption :=
  let silent := spec.head? == some ':'
  let next : OptionCursor := { index, offset := some offset }
  let behind (t : Text) : Option Text :=
    match t with
    | d :: t => if d == c then some t else none
    | [] => none
  let isLetter (i : Nat) : Option Text :=
    if c == ':' then none else behind (spec.drop i)
  match (List.range spec.length).findSome? isLetter with
  | none =>
    if silent then { argument := some (some [c]), cursor := next }
    else
      { argument := some none, cursor := next
        warning := "Illegal option -".toList ++ [c, '\n'] }
  | some (':' :: _) =>
    if !rest.isEmpty then { letter := c, argument := some (some rest), cursor := { index } }
    else
      match all[index - 1]? with
      | some t => { letter := c, argument := some (some t), cursor := { index := index + 1 } }
      | none =>
        if silent then { letter := ':', argument := some (some [c]), cursor := { index } }
        else
          { argument := some none, cursor := { index }
            warning := "No arg for -".toList ++ c :: " option\n".toList }
  | some _ => { letter := c, argument := some (some []), cursor := next }

def nextOption (spec : Text) (all : List Text) (cursor : OptionCursor) : NextOption :=
  let index := max 1 cursor.index
  let inWord : Option (Text × Nat) :=
    match cursor.offset with
    | none => none
    | some o =>
      if index ≤ 1 then none
      else
        match all[index - 2]? with
        | some w => if w.length < o || (w.drop o).isEmpty then none else some (w.drop o, o)
        | none => none
  match inWord with
  | some (c :: rest, o) => optionOf spec all c rest index (o + 1)
  | _ =>
    match all[index - 1]? with
    | some ['-', '-'] => { cursor := { index := index + 1 }, atEnd := true }
    | some ('-' :: c :: rest) => optionOf spec all c rest (index + 1) 2
    | _ => { cursor := { index }, atEnd := true }

def runGetopts (arguments : List Text) : Act Unit := do
  match arguments with
  | spec :: name :: words =>
    let sh ← shell
    let all := if words.isEmpty then sh.arguments else words
    let cursor := if all.length + 1 < sh.cursor.index then {} else sh.cursor
    let next := nextOption spec all cursor
    report next.warning
    let stored ← match next.argument with
      | some (some t) => setVariable "OPTARG".toList t
      | some none => do
        modifyShell fun sh => (sh.unset "OPTARG".toList).toOption.getD sh
        pure true
      | none => pure true
    if stored then
      if ← setVariable "OPTIND".toList (Text.ofNat next.cursor.index) then
        if ← setVariable name [next.letter] then
          modifyShell fun sh => { sh with cursor := next.cursor }
          setStatus (if next.atEnd then 1 else 0)
  | _ => fault "Usage: getopts optstring var [arg...]".toList

end DaemonDialogue.Script.Builtin
