import DaemonDialogue.Script.Arithmetic
import DaemonDialogue.Script.Field
import DaemonDialogue.Script.Glob
import DaemonDialogue.Script.Shell.Basic

/-!
# Expansion of words

A word stands for what is left when its parameters, commands and arithmetic expressions are
replaced. What commands write has to be given; where something is missing, the expansion
asks for it and starts again with one more answer.
-/

namespace DaemonDialogue.Script

/-- Why a word stands for nothing. -/
inductive Expansion.Fault
  | refused (r : Shell.Refusal)
  | unset (name : Text) (orEmpty : Bool)
  | complaint (name message : Text)
  | badSubstitution
  | arithmetic (expression : Text) (f : Arithmetic.Fault)
  deriving Repr, Inhabited

namespace Expansion

def Fault.message : Fault → Text
  | .refused r => r.message
  | .unset name orEmpty =>
    name ++ ": parameter not set".toList ++ if orEmpty then " or null".toList else []
  | .complaint name message => name ++ [':', ' '] ++ message
  | .badSubstitution => "Bad substitution".toList
  | .arithmetic expression f => f.message expression

/-- Why an expansion stops: for what a command writes, or at a fault. -/
inductive Halt
  | ask (c : Command)
  | fault (f : Fault)
  deriving Inhabited

/-- How a word is expanded: whether it is split into fields, whether tildes at its beginning or
in its value stand for directories, whether the sign before that value was passed, whether it
stands in quotes, and whether it takes the place of a parameter. -/
structure Way where
  splits : Bool := false
  tilde : Bool := false
  assigns : Bool := false
  assigned : Bool := false
  quoted : Bool := false
  instead : Bool := false
  deriving Repr, Inhabited

namespace Way

def argument : Way := { splits := true, tilde := true }

def assignment : Way := { assigns := true }

/-- As a name of a file, the subject of a choice, or a pattern. -/
def plain : Way := { tilde := true }

def document : Way := { quoted := true }

end Way

/-- What is known while a word is expanded: the shell, what commands wrote, and the runs so far,
the last one first. The last one may still grow. -/
structure State where
  shell : Shell
  answers : List Text
  runs : List Run := []
  grows : Bool := false

abbrev Expand := EStateM Halt State

def fail {α : Type} (f : Fault) : Expand α := throw (.fault f)

def emit (r : Run) : Expand Unit :=
  modify fun s => { s with runs := r :: s.runs, grows := false }

/-- Adds a character of the script, which may separate fields if it stands for a parameter. -/
def emitChar (splits : Bool) (c : Char) : Expand Unit := modify fun s =>
  match splits, s.grows, s.runs with
  | true, true, r :: rest => { s with runs := { r with glyphs := r.glyphs ++ [.char c] } :: rest }
  | true, _, runs => { s with runs := ⟨[.char c], .atSeparators⟩ :: runs, grows := true }
  | false, _, runs => { s with runs := ⟨[.char c], .never⟩ :: runs, grows := false }

def emitValue (quoted between : Bool) (t : Text) : Expand Unit :=
  emit ⟨Glyph.ofText quoted t,
    if !quoted then .atSeparators else if between then .betweenParameters else .never⟩

/-- The glyphs that an expansion adds, which are taken away again. -/
def isolated (act : Expand Unit) : Expand (List Glyph) := do
  let before := (← get).runs
  modify fun s => { s with runs := [], grows := false }
  act
  let s ← get
  set { s with runs := before, grows := false }
  return (s.runs.reverse.map (·.glyphs)).flatten

/-- The home directories of the users that every system has. -/
def homes : List (String × String) :=
  [("root", "/root"), ("daemon", "/usr/sbin"), ("bin", "/bin"), ("sys", "/dev"), ("sync", "/bin"),
    ("games", "/usr/games"), ("man", "/var/cache/man"), ("lp", "/var/spool/lpd"),
    ("mail", "/var/mail"), ("news", "/var/spool/news"), ("uucp", "/var/spool/uucp"),
    ("proxy", "/bin"), ("www-data", "/var/www"), ("backup", "/var/backups"),
    ("list", "/var/list"), ("irc", "/run/ircd"), ("nobody", "/nonexistent")]

/-- The home directory of a user, or the one in use where none is named. -/
def homeOf? (s : Shell) (user : Text) : Option Text :=
  if user.isEmpty then s.bindings.value? "HOME".toList
  else (homes.lookup (String.ofList user)).map String.toList

/-- The directory that the beginning of a word stands for, and of how many pieces that is. -/
def tilde? (s : Shell) (colons : Bool) (w : Word) : Option (Text × Nat) :=
  match w with
  | .char '~' :: rest =>
    let user := (Word.plainBeginning rest).takeWhile fun c => c != '/' && !(colons && c == ':')
    let ended := match rest.drop user.length with
      | [] | .char _ :: _ => true
      | _ => false
    if ended then (homeOf? s user).map fun t => (t, user.length + 1) else none
  | _ => none

/-- What stands between parameters that are given together. -/
def separator? (s : Shell) (way : Way) (apart : Bool) : Option Char :=
  if way.splits && apart then some Field.boundary
  else if way.splits && !way.quoted then
    if s.hasSeparators then some Field.boundary else some ' '
  else if s.hasSeparators then s.separators.head?
  else some ' '

def join (separator : Option Char) : List Text → Text
  | [] => []
  | [t] => t
  | t :: rest => t ++ separator.toList ++ join separator rest

def parameter? (s : Shell) (way : Way) (name : Text) : Option Text :=
  match name with
  | ['$'] => some (Text.ofNat s.root)
  | ['?'] => some (Text.ofNat s.status)
  | ['#'] => some (Text.ofNat s.arguments.length)
  | ['!'] => s.background.map Text.ofNat
  | ['-'] => some s.settings.letters
  | ['@'] => some (join (separator? s way way.quoted) s.arguments)
  | ['*'] => some (join (separator? s way false) s.arguments)
  | c :: _ =>
    if Ascii.isDigit c then
      match Ascii.digitsValue name with
      | 0 => some s.name
      | n + 1 => s.arguments[n]?
    else s.bindings.value? name
  | [] => none

/-- The text up to the first boundary of parameters. -/
def upToBoundary (t : Text) : Text := t.takeWhile (· != Field.boundary)

/-- What is left of a text behind its shortest or longest beginning that fits. -/
def cutFront (longest : Bool) (pattern t : Text) : Text :=
  let items := Glob.items (pattern.length + 1) pattern
  let lengths := List.range ((if longest then t else upToBoundary t).length + 1)
  let lengths := if longest then lengths.reverse else lengths
  match lengths.find? fun n => Glob.fits items (upToBoundary (t.take n)) with
  | some n => t.drop n
  | none => t

/-- What is left of a text before its shortest or longest end that fits. -/
def cutBack (longest : Bool) (pattern t : Text) : Text :=
  let items := Glob.items (pattern.length + 1) pattern
  let starts := List.range ((if longest then upToBoundary t else t).length + 1)
  let starts := if longest then starts else starts.reverse
  match starts.find? fun n => Glob.fits items (upToBoundary (t.drop n)) with
  | some n => t.take n
  | none => t

/-- What of the output of a command counts: zeros and the ends of the last lines do not. -/
def ofOutput (t : Text) : Text :=
  ((t.filter (· != '\x00')).reverse.dropWhile (· == '\n')).reverse

def answer (c : Command) : Expand Text := do
  let s ← get
  match s.answers with
  | t :: rest =>
    set { s with answers := rest }
    return t
  | [] => throw (.ask c)

def assign (name value : Text) : Expand Unit := do
  let s ← get
  match s.shell.set name value with
  | .ok shell => set { s with shell }
  | .error r => fail (.refused r)

def calculate (expression : Text) : Expand Text := do
  let s := (← get).shell
  let scope : Arithmetic.Scope :=
    { value? := s.bindings.value?, isReadOnly := s.bindings.isReadOnly }
  match Arithmetic.evaluate scope expression with
  | .ok (n, assigned) =>
    assigned.forM fun (name, value) => assign name value
    return Text.ofInt n
  | .error f => fail (.arithmetic expression f)

/-- The value of a parameter whose length or value is asked for, or that is to be cut. -/
def required (way : Way) (name : Text) : Expand (Option Text) := do
  let s := (← get).shell
  match parameter? s way name with
  | some t => return some t
  | none =>
    if s.has .nounset then fail (.unset name false)
    return none

/-- Are all parameters in quotes of their own at the beginning of what follows a quote? -/
def givesAll : List Piece → Bool
  | .parameter ['@'] .value _ _ :: .quote :: _ => true
  | _ => false

mutual

/-- Adds what a whole word stands for. -/
def expand (way : Way) (w : List Piece) : Expand Unit := do
  let s := (← get).shell
  match if way.tilde then tilde? s way.assigns w else none with
  | some (home, n) =>
    emit ⟨Glyph.ofText true home, .never⟩
    expandFrom way false n w
  | none => expandFrom way false 0 w
termination_by (sizeOf w, 1)

/-- Adds what the pieces of a word stand for; `inner` tells whether quotes are open, and `skip`
how many pieces are done. -/
def expandFrom (way : Way) (inner : Bool) (skip : Nat) (w : List Piece) : Expand Unit := do
  match w, skip with
  | [], _ => return
  | _ :: rest, skip + 1 => expandFrom way inner skip rest
  | piece :: rest, 0 =>
    let quoted := way.quoted || inner
    let here : Way := { way with quoted }
    match piece with
    | .quote =>
      if !inner && givesAll rest then
        let s := (← get).shell
        let value := (parameter? s { way with quoted := true } ['@']).getD []
        emitValue true (!s.arguments.isEmpty) value
        expandFrom way inner 2 rest
      else
        emit ⟨[.quote], .never⟩
        expandFrom way (!inner) 0 rest
    | .char c =>
      emitChar (way.instead && !quoted) c
      if way.assigns && (c == ':' || (c == '=' && !way.assigned)) then
        match tilde? (← get).shell true rest with
        | some (home, n) =>
          emit ⟨Glyph.ofText true home, .never⟩
          expandFrom { way with assigned := true } inner n rest
        | none => expandFrom { way with assigned := true } inner 0 rest
      else expandFrom way inner 0 rest
    | .shielded c =>
      emit ⟨[.shielded c], .never⟩
      expandFrom way inner 0 rest
    | .output c =>
      let text ← match c with
        | some c => answer c
        | none => pure []
      emitValue quoted false (ofOutput text)
      expandFrom way inner 0 rest
    | .arithmetic expression =>
      let gs ← isolated (expand {} expression)
      emitValue quoted false (← calculate (Glyph.text gs))
      expandFrom way inner 0 rest
    | .parameter name use emptyCounts word =>
      let between : Bool := name == ['@'] && !(← get).shell.arguments.isEmpty
      let emitHere (t : Text) : Expand Unit := emitValue quoted between t
      let unsplit : Way := { here with splits := false }
      let counts (t : Option Text) : Option Text :=
        t.bind fun t => if emptyCounts && t.isEmpty then none else some t
      match use with
      | .unknown => fail .badSubstitution
      | .value =>
        match ← required here name with
        | some t => emitHere t
        | none => pure ()
      | .length =>
        let t ← required unsplit name
        emitHere (Text.ofNat (t.getD []).length)
      | .instead =>
        match counts (parameter? (← get).shell unsplit name) with
        | some _ => expand { here with tilde := true, instead := true } word
        | none => emitHere []
      | .otherwise =>
        match counts (parameter? (← get).shell here name) with
        | some t => emitHere t
        | none => expand { here with tilde := true, instead := true } word
      | .assign =>
        match counts (parameter? (← get).shell here name) with
        | some t => emitHere t
        | none =>
          let gs ← isolated (expand .plain word)
          assign name (Glyph.text gs)
          emitHere ((parameter? (← get).shell here name).getD [])
      | .complain =>
        match counts (parameter? (← get).shell here name) with
        | some t => emitHere t
        | none =>
          if word.isEmpty then fail (.unset name emptyCounts)
          let gs ← isolated (expand .plain word)
          fail (.complaint name (Glyph.text gs))
      | .cutFront longest =>
        match ← required here name with
        | some t =>
          let gs ← isolated (expand .plain word)
          emitHere (cutFront longest (Glyph.pattern gs) t)
        | none => pure ()
      | .cutBack longest =>
        match ← required here name with
        | some t =>
          let gs ← isolated (expand .plain word)
          emitHere (cutBack longest (Glyph.pattern gs) t)
        | none => pure ()
      expandFrom way inner 0 rest
termination_by (sizeOf w, 0)

end

inductive Outcome (α : Type)
  | done (a : α) (s : Shell)
  | ask (c : Command) (s : Shell)
  | fault (f : Fault) (s : Shell)
  deriving Inhabited

def outcome {α : Type} (act : Expand α) (s : Shell) (answers : List Text) : Outcome α :=
  match act.run { shell := s, answers } with
  | .ok a s => .done a s.shell
  | .error (.ask c) s => .ask c s.shell
  | .error (.fault f) s => .fault f s.shell

/-- The paths that a field stands for, or its own text if there are none. -/
def ofField (files : File.Tree) (s : Shell) (gs : List Glyph) : List Text :=
  let found := if s.has .noglob then [] else Glob.expand files (Glyph.pattern gs)
  if found.isEmpty then [Glyph.text gs] else found

def texts (files : File.Tree) (way : Way) (w : Word) : Expand (List Text) := do
  expand way w
  let s ← get
  let runs := s.runs.reverse
  if way.splits then
    return (Field.split s.shell.separators runs).flatMap (ofField files s.shell)
  else return [Glyph.text (runs.map (·.glyphs)).flatten]

def pattern (w : Word) : Expand Text := do
  let gs ← isolated (expand .plain w)
  return Glyph.pattern gs

end Expansion
end DaemonDialogue.Script
