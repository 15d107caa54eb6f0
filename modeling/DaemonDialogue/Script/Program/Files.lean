import DaemonDialogue.File.Tree
import DaemonDialogue.Script.Program.Options

/-!
# Programs on files

Directories are made and removed, files are touched, copied, moved, listed and removed.
-/

namespace DaemonDialogue.Script.Program

/-- Files after some of the work of a program, what it wrote and complained about. -/
structure Progress where
  files : File.Tree
  output : Text := []
  complaints : Text := []
  status : Nat := 0

namespace Progress

def refuse (name : Text) (what : String) (path : Text) (f : SystemFault) (p : Progress) : Progress :=
  let text := what.toList ++ ' ' :: Grammar.quote path ++ [':', ' '] ++ f.reason.toList
  { p with complaints := p.complaints ++ complaint name text, status := 1 }

/-- Goes on with changed files, unless the change is refused. -/
def change (name : Text) (what : String) (path : Text) (r : Except SystemFault File.Tree)
    (p : Progress) : Progress :=
  match r with
  | .ok files => { p with files }
  | .error f => p.refuse name what path f

def result (p : Progress) : Result × File.Tree := ({ p with : Result }, p.files)

end Progress

def pathname (t : Text) : File.Pathname := ⟨Text.toBytes t⟩

def inside (directory name : Text) : Text :=
  if directory.getLast? == some '/' then directory ++ name else directory ++ '/' :: name

def nameOf (path : Text) : Text :=
  ((path.reverse.dropWhile (· == '/')).takeWhile (· != '/')).reverse

def makeAll (files : File.Tree) (path : Text) : Except SystemFault File.Tree :=
  let parts := Text.fields '/' path
  let paths := (List.range parts.length).filterMap fun i =>
    if parts[i]? == some [] then none else some (['/'].intercalate (parts.take (i + 1)))
  paths.foldlM (fun files p => files.ensureDirectory (pathname p)) files

def removeDirectory (files : File.Tree) (path : Text) : Except SystemFault File.Tree := do
  match ← files.find (pathname path) with
  | .directory [] => return files.removeAll (pathname path)
  | .directory _ => .error .notEmpty
  | _ => .error .notADirectory

/-- Removes what is at a path, with all below it if that is wanted. -/
def remove (files : File.Tree) (all force : Bool) (path : Text) : Except SystemFault File.Tree :=
  match files.find (pathname path) with
  | .ok (.directory _) => if all then .ok (files.removeAll (pathname path)) else .error .isADirectory
  | .ok _ => files.removeFile (pathname path)
  | .error f => if force && f == .notFound then .ok files else .error f

/-- Makes a file unless something is there. -/
def touch (files : File.Tree) (path : Text) : Except SystemFault File.Tree :=
  if files.contains (pathname path) then .ok files else files.write (pathname path) []

/-- Where something goes that is copied or moved to a path. -/
def destination (files : File.Tree) (source target : Text) : Text :=
  if files.isDirectory (pathname target) then inside target (nameOf source) else target

def copy (files : File.Tree) (source target : Text) : Except SystemFault File.Tree := do
  let bytes ← files.read (pathname source)
  files.write (pathname (destination files source target)) bytes

def move (files : File.Tree) (source target : Text) : Except SystemFault File.Tree := do
  let entry ← files.find (pathname source)
  let target := destination files source target
  match ← files.locate (pathname target) with
  | .unnamed .. => .error .exists_
  | .named above name found _ =>
    match entry.isDirectory, found with
    | true, some (.directory (_ :: _)) => .error .notEmpty
    | true, some (.directory []) | _, none | false, some (.file _) =>
      return (files.removeAll (pathname source)).put (above ++ [name]) (some entry)
    | true, some _ => .error .notADirectory
    | false, some _ => .error .isADirectory

def setExecutable (files : File.Tree) (value : Bool) (path : Text) : Except SystemFault File.Tree := do
  match ← files.find (pathname path) with
  | .file id => return files.setContent id { files.content id with executable := value }
  | _ => return files

/-- Does a mode let its owner run a file? None if it says nothing of it. -/
def executable? (mode : Text) : Option Bool :=
  if !mode.isEmpty && mode.all Ascii.isDigit then
    (mode.reverse[2]?).map fun c => (c.toNat - '0'.toNat) % 2 == 1
  else if !mode.contains 'x' then none
  else if mode.contains '+' || mode.contains '=' then some true
  else if mode.contains '-' then some false
  else none

/-- The names in a directory, in order; those that begin with a dot only if wanted. -/
def namesIn (entries : List (File.Name × File.Entry)) (hidden : Bool) : List Text :=
  let names := entries.map fun e => Text.ofBytes e.1
  let shown := names.filter fun n => hidden || n.head? != some '.'
  shown.mergeSort Text.precedes

def list (files : File.Tree) (name : Text) (p : Parsed) : Progress :=
  let targets := (if p.operands.isEmpty then [['.']] else p.operands).mergeSort Text.precedes
  let start : Progress := { files }
  let found := targets.filterMap fun t => (files.find (pathname t)).toOption.map fun e => (t, e)
  let failed := targets.foldl (fun (progress : Progress) t =>
    match files.find (pathname t) with
    | .ok _ => progress
    | .error f => { progress.refuse name "cannot access" t f with status := 2 }) start
  let isListed (e : File.Entry) : Bool := e.isDirectory && !p.has 'd'
  let plain := (found.filter fun e => !isListed e.2).flatMap fun e => e.1 ++ ['\n']
  let blocks := (found.filter fun e => isListed e.2).map fun (t, e) =>
    let entries := match e with
      | .directory entries => namesIn entries (p.has 'A' || p.has 'a')
      | _ => []
    let entries := if p.has 'a' then ['.'] :: ['.', '.'] :: entries else entries
    let head := if 1 < targets.length then t ++ [':', '\n'] else []
    head ++ entries.flatMap (· ++ ['\n'])
  let parts := (if plain.isEmpty then [] else [plain]) ++ blocks
  { failed with output := ['\n'].intercalate parts }

/-- A program on files: what comes of it, and the files behind it. -/
def changing? (program : String) (files : File.Tree) (name : Text) (arguments : List Text) :
    Option (Result × File.Tree) :=
  let run (g : Grammar) (act : Parsed → Except Text Progress) : Option (Result × File.Tree) :=
    match (g.parse arguments).bind act with
    | .error e => some (.misused name e 1, files)
    | .ok p => some p.result
  let onEach (g : Grammar) (optional : Parsed → Bool) (act : Parsed → Progress → Text → Progress) :
      Option (Result × File.Tree) :=
    run g fun p =>
      if p.operands.isEmpty && !optional p then .error "missing operand".toList
      else .ok (p.operands.foldl (act p) { files })
  let onPairs (g : Grammar) (what : String) (act : File.Tree → Text → Text → Except SystemFault File.Tree) :
      Option (Result × File.Tree) :=
    run g fun p =>
      match p.operands.reverse with
      | [] => .error "missing file operand".toList
      | [one] => .error ("missing destination file operand after ".toList ++ Grammar.quote one)
      | target :: sources =>
        .ok (sources.reverse.foldl (fun (progress : Progress) source =>
          progress.change name what source (act progress.files source target)) { files })
  match program with
  | "mkdir" =>
    onEach { letters := Grammar.ofLetters "pv" "m", names := [("mode", 'm'), ("parents", 'p'), ("verbose", 'v')] }
      (fun _ => false) fun p progress t =>
        progress.change name "cannot create directory" t
          (if p.has 'p' then makeAll progress.files t else progress.files.createDirectory (pathname t))
  | "rmdir" =>
    onEach { letters := Grammar.ofLetters "pv" "", names := [("parents", 'p'), ("verbose", 'v')] }
      (fun _ => false) fun _ progress t =>
        progress.change name "failed to remove" t (removeDirectory progress.files t)
  | "rm" =>
    onEach
      { letters := Grammar.ofLetters "dfiIrRv" ""
        names := [("dir", 'd'), ("force", 'f'), ("recursive", 'r'), ("verbose", 'v')] }
      (fun p => p.has 'f') fun p progress t =>
        progress.change name "cannot remove" t
          (remove progress.files (p.has 'r' || p.has 'R') (p.has 'f') t)
  | "touch" =>
    run
      { letters := Grammar.ofLetters "acfhm" "drt", names := [("no-create", 'c'), ("date", 'd')] }
      fun p =>
        if p.operands.isEmpty then .error "missing file operand".toList
        else
          .ok (p.operands.foldl (fun (progress : Progress) t =>
            if p.has 'c' then progress
            else progress.change name "cannot touch" t (touch progress.files t)) { files })
  | "cp" => onPairs { letters := Grammar.ofLetters "afiprRv" "t" } "cannot stat" copy
  | "mv" => onPairs { letters := Grammar.ofLetters "finv" "t" } "cannot stat" move
  | "chmod" =>
    match arguments with
    | mode :: targets@(_ :: _) =>
      let progress := targets.foldl (fun (progress : Progress) t =>
        match executable? mode with
        | some value => progress.change name "cannot access" t (setExecutable progress.files value t)
        | none => progress) { files }
      some progress.result
    | [] => some (.misused name "missing operand".toList 1, files)
    | [one] => some (.misused name ("missing operand after ".toList ++ Grammar.quote one) 1, files)
  | "ls" => run { letters := Grammar.ofLetters "1aAdlRrt" "", names := [("all", 'a'), ("almost-all", 'A')] }
      fun p => .ok (list files name p)
  | _ => none

end DaemonDialogue.Script.Program
