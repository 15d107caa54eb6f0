import DaemonDialogue.Script.Builtin.Variable

/-!
# Commands about places

The directory in use has a name of its own, in which two dots take back a name; files are
made with a mask.
-/

namespace DaemonDialogue.Script.Builtin

open Act

/-- A path with its dots resolved by name alone, from the directory in use. -/
def resolvedByName (directory path : Text) : Text :=
  let isAbsolute := path.head? == some '/'
  let names := (if isAbsolute then [] else Text.fields '/' directory) ++ Text.fields '/' path
  let walked := names.foldl (fun (stack : List Text) name =>
    if name.isEmpty || name == ['.'] then stack
    else if name == ['.', '.'] then stack.drop 1
    else name :: stack) []
  let base := if isAbsolute then path else directory
  let doubled := match base with
    | '/' :: '/' :: c :: _ => c != '/'
    | ['/', '/'] => true
    | _ => false
  let root : Text := if doubled then ['/', '/'] else ['/']
  root ++ ['/'].intercalate walked.reverse

def pathOf (place : File.Place) : Text :=
  if place.isEmpty then ['/'] else place.flatMap fun name => '/' :: Text.ofBytes name

/-- Goes to a directory; false if that is not possible. -/
def goTo (physical : Bool) (path : Text) : Act Bool := do
  let s ← get
  let directory := s.self.shell.directory
  let byName := resolvedByName directory path
  let target := if physical then path else byName
  match (s.machine.filesOf s.self).resolve ⟨Text.toBytes target⟩ with
  | .ok (place, .directory _) =>
    let new := if physical then pathOf place else byName
    modifySelf fun p => { p with directory := place }
    modifyShell fun sh => { sh with directory := new }
    let show_ (name : String) (value : Text) : Act Bool := do
      let fine ← setVariable name.toList value
      if fine then modifyShell fun sh => { sh with bindings := sh.bindings.export_ name.toList }
      return fine
    if ← show_ "OLDPWD" directory then
      let _ ← show_ "PWD" new
    return true
  | _ => return false

/-- Is a path looked for from the directory in use alone? -/
def isFixed (path : Text) : Bool :=
  match path with
  | '/' :: _ | ['.'] | '.' :: '/' :: _ | ['.', '.'] | '.' :: '.' :: '/' :: _ => true
  | _ => false

/-- The options about names of directories, and what is left. -/
def placeOptions (arguments : List Text) : Except Text (Bool × List Text) := do
  let (found, left) ← options [('L', false), ('P', false)] arguments
  return ((found.getLast?.map (·.1)) == some 'P', left)

def runCd (arguments : List Text) : Act Unit := do
  match placeOptions arguments with
  | .error e => fault e
  | .ok (physical, left) =>
    let s ← get
    let vs := s.self.shell.bindings
    let (target, prints) := match left with
      | [] => ((vs.value? "HOME".toList).getD [], false)
      | ['-'] :: _ => ((vs.value? "OLDPWD".toList).getD [], true)
      | t :: _ => (t, false)
    let files := s.machine.filesOf s.self
    let isFixed := isFixed target
    let target' := if target.isEmpty then ['.'] else target
    let listed := if isFixed then [] else (vs.value? "CDPATH".toList).map (Text.fields ':') |>.getD []
    let found := listed.find? fun d => files.isDirectory ⟨Text.toBytes (Executable.within d target')⟩
    let (path, prints) := match found with
      | some d => (Executable.within d target', prints || !d.isEmpty)
      | none => (target', prints)
    if ← goTo physical path then
      let directory := (← shell).directory
      if !(← isSkipping) then reply (if prints then directory ++ ['\n'] else []) 0
    else fault ("can't cd to ".toList ++ target')

def runPwd (arguments : List Text) : Act Unit := do
  match placeOptions arguments with
  | .error e => fault e
  | .ok (physical, _) =>
    let p ← self
    reply ((if physical then pathOf p.directory else p.shell.directory) ++ ['\n']) 0

def ofOctal? (t : Text) : Option Nat :=
  if t.all fun c => '0' ≤ c && c ≤ '7' then
    some (t.foldl (fun n c => n * 8 + (c.toNat - '0'.toNat)) 0)
  else none

/-- What a mask allows one kind of users, in letters. -/
def permissions (bits : Nat) : Text :=
  (if bits &&& 4 == 0 then ['r'] else []) ++ (if bits &&& 2 == 0 then ['w'] else []) ++
    (if bits &&& 1 == 0 then ['x'] else [])

def symbolic (mask : Nat) : Text :=
  "u=".toList ++ permissions (mask / 64) ++ ",g=".toList ++ permissions (mask / 8) ++
    ",o=".toList ++ permissions mask

/-- What is allowed after a change in letters, or none if it is not one; `fuel` bounds the number
of its parts. -/
def changed? (allowed : Nat) : Nat → Nat → Nat → Text → Option Nat
  | 0, now, _, _ => some now
  | fuel + 1, now, users, t =>
    let users := (t.takeWhile "augo".toList.contains).foldl (fun n c =>
      n ||| match c with
        | 'u' => 64
        | 'g' => 8
        | 'o' => 1
        | _ => 73) users
    let users := if users == 0 then 73 else users
    match t.dropWhile "augo".toList.contains with
    | [] => none
    | op :: rest =>
      if !"=+-".toList.contains op then none
      else
        let isBit (c : Char) : Bool := "rwxugoXs".toList.contains c
        let bits := (rest.takeWhile isBit).foldl (fun n c =>
          n ||| match c with
            | 'r' => 4
            | 'w' => 2
            | 'x' => 1
            | 'u' => allowed / 64
            | 'g' => allowed / 8
            | 'o' => allowed
            | 'X' => if allowed &&& 73 == 0 then 0 else 1
            | _ => 0) 0
        let bits := (bits &&& 7) * users
        let now := match op with
          | '-' => now &&& (511 ^^^ (bits &&& 511))
          | '+' => now ||| bits
          | _ => bits ||| (now &&& (511 ^^^ (users * 7)))
        match rest.dropWhile isBit with
        | [] => some now
        | ',' :: [] => some now
        | ',' :: more => changed? allowed fuel now 0 more
        | c :: more =>
          if "=+-".toList.contains c then changed? allowed fuel now users (c :: more) else none

/-- Shows or changes the mask of new files. -/
def runUmask (arguments : List Text) : Act Unit := do
  match options [('S', false)] arguments with
  | .error e => fault e
  | .ok (found, left) =>
    let mask := (← shell).mask
    match left with
    | [] =>
      if found.isEmpty then
        let digits := Number.inBase 8 mask
        reply (List.replicate (4 - digits.length) '0' ++ digits ++ ['\n']) 0
      else reply (symbolic mask ++ ['\n']) 0
    | t :: _ =>
      if t.head?.any Ascii.isDigit then
        match ofOctal? t with
        | some mask =>
          modifyShell fun sh => { sh with mask := mask &&& 511 }
          setStatus 0
        | none => illegalNumber t
      else
        let allowed := 511 ^^^ mask
        match if t.isEmpty then some allowed else changed? allowed (t.length + 1) allowed 0 t with
        | some allowed =>
          modifyShell fun sh => { sh with mask := 511 ^^^ (allowed &&& 511) }
          setStatus 0
        | none => fault ("Illegal mode: ".toList ++ t)

/-- Nothing is limited. -/
def runUlimit (arguments : List Text) : Act Unit := do
  let letters := "HSatfdscmlpnvwrei".toList.map fun c => (c, false)
  match options letters arguments with
  | .error e => fault e
  | .ok (_, left) => if left.isEmpty then reply "unlimited\n".toList 0 else setStatus 0

end DaemonDialogue.Script.Builtin
