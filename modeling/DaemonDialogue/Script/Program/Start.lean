import DaemonDialogue.Script.Builtin.Control
import DaemonDialogue.Script.Program.AtOnce
import DaemonDialogue.Script.Program.Shell

/-!
# Starting programs

A program takes the place of the one that starts it: it keeps descriptors, the directory in
use and the signals that are ignored, and is given an environment. A script is run by its
interpreter.
-/

namespace DaemonDialogue.Script.Program

open Act

def names : List String :=
  ["[", "basename", "cat", "chmod", "cp", "cut", "dash", "dirname", "echo", "egrep", "env", "expr", "false", "fgrep",
    "grep", "head", "ls",
    "mkdir", "mv", "printenv", "printf", "pwd", "rev", "rm", "rmdir", "sed", "seq", "sh", "sleep", "sort", "tac",
    "tail", "tee", "test", "timeout", "touch", "tr", "true", "tty", "uniq", "wc", "whoami", "yes"]

def directories : List String := ["/bin", "/usr/bin"]

/-- The directories of a machine on which nothing else was put. -/
def firstDirectories : List String :=
  ["/bin", "/boot", "/dev", "/etc", "/home", "/lib", "/lib64", "/media", "/mnt", "/opt", "/proc", "/root",
    "/run", "/sbin", "/srv", "/sys", "/tmp", "/usr/bin", "/usr/lib", "/usr/local/bin", "/usr/local/sbin",
    "/usr/sbin", "/usr/share", "/var/log", "/var/tmp"]

def devices : List (String × File.Device) :=
  [("null", .null), ("zero", .zero), ("full", .full), ("tty", .terminal), ("stdin", .descriptor 0),
    ("stdout", .descriptor 1), ("stderr", .descriptor 2)]

/-- The files of a machine on which nothing else was put. -/
def files : File.Tree :=
  let t := firstDirectories.foldl (fun t d => (t.createDirectories d).1) ({} : File.Tree)
  let bytes (s : String) : File.Name := s.toUTF8.toList
  let t := devices.foldl (fun (t : File.Tree) (name, d) =>
    t.put [bytes "dev", bytes name] (some (.device d))) t
  let descriptors := (List.range 10).map fun n => (bytes (toString n), File.Entry.device (.descriptor n))
  let t := t.put [bytes "dev", bytes "fd"] (some (.directory descriptors))
  directories.foldl (fun t d => names.foldl (fun (t : File.Tree) name =>
    let place := ((d.toList.splitOn '/').drop 1).map fun part => bytes (String.ofList part)
    (t.addFile (place ++ [bytes name]) (Executable.content name)).1) t) t

/-- A file that can be run, at the first of some paths: the program and its arguments. -/
def resolve (files : File.Tree) (paths : List Text) (arguments : List Text) :
    Except SystemFault (Text × List Text) :=
  let start : Except SystemFault (Text × List Text) := .error .notFound
  paths.foldl (fun found path =>
    match found with
    | .ok _ => found
    | .error before =>
      match chase maxInterpreters path arguments with
      | .ok r => .ok r
      | .error .notFound | .error .notADirectory => .error before
      | .error f => .error f) start
where
  /-- How many interpreters may stand behind each other. -/
  maxInterpreters : Nat := 5
  /-- The program behind a file, and its arguments. -/
  chase : Nat → Text → List Text → Except SystemFault (Text × List Text)
    | 0, _, _ => .error (.other "Too many levels of symbolic links")
    | fuel + 1, path, arguments =>
      match Executable.atPath files path with
      | .ok (.program name) => .ok (name, arguments)
      | .ok (.interpreted by_ argument) =>
        chase fuel by_ (by_ :: argument.toList ++ path :: arguments.drop 1)
      | .error .noFormat =>
        let shell := "/bin/sh".toList
        chase fuel shell (shell :: path :: arguments.drop 1)
      | .error f => .error f

def pathsOf (path name : Text) : List Text :=
  if name.contains '/' then [name]
  else if name.isEmpty then []
  else Executable.candidates path name

def renewed (p : Process) : Process :=
  { pid := p.pid, parent := p.parent, descriptors := p.descriptors, directory := p.directory
    shell := { ignored := p.ignoredSignals, mask := p.shell.mask }, ready := p.ready }

def sourcesOf (operands : List Text) : List Text := if operands.isEmpty then [['-']] else operands

/-- Ends a program that was not used well. -/
def misused (name t : Text) (status : Nat) : Act Unit := conclude name (.misused name t status)

def startCat (name : Text) (arguments : List Text) : Act Unit := do
  match Cat.grammar.parse arguments with
  | .error e => misused name e 1
  | .ok p =>
    if (← target? 1).isNone then
      protest name "standard output: Bad file descriptor".toList
      die (.code 1)
    else push (.chore (.cat { name, sources := sourcesOf p.operands } (Cat.display p) {}))

def startHead (name : Text) (arguments : List Text) : Act Unit := do
  match Head.grammar.parse (modern arguments) with
  | .error e => misused name e 1
  | .ok p =>
    let bytes := p.last? ['n', 'c'] == some 'c'
    let argument := ((if bytes then p.argument? 'c' else p.argument? 'n').getD ['1', '0'])
    let written := match argument with
      | '-' :: digits | '+' :: digits => digits
      | digits => digits
    match count? written with
    | none =>
      let what := if bytes then "bytes" else "lines"
      protest name ("invalid number of ".toList ++ what.toList ++ ": ".toList ++ Grammar.quote written)
      die (.code 1)
    | some count =>
      let headers := (1 < p.operands.length && !p.has 'q') || p.has 'v'
      let r : Chore.Reading := { name, sources := sourcesOf p.operands }
      if argument.head? == some '-' then push (.chore (.gather "head" (modern arguments) r []))
      else push (.chore (.head r { bytes, count, left := count, headers }))

def startLines (l : LineProgram) (program : String) (name : Text) (arguments : List Text) : Act Unit := do
  let arguments := if program == "tail" then modernEnd arguments else arguments
  match l.grammar.parse arguments with
  | .error e => conclude name { complaints := l.complains name e, status := l.misuseStatus }
  | .ok p =>
    match l.sources name p with
    | .error r => conclude name r
    | .ok sources => push (.chore (.gather program arguments { name, sources } []))

def startSleep (name : Text) (arguments : List Text) : Act Unit := do
  match ({} : Grammar).parse arguments with
  | .error e => misused name e 1
  | .ok p =>
    if p.operands.isEmpty then misused name "missing operand".toList 1
    else
      match durations? p.operands with
      | some time =>
        let now := (← machine).clock
        push (.chore (.sleep (time.map (now + ·))))
      | none =>
        let bad := p.operands.filter fun t => (duration? t).isNone
        let lines := bad.map fun t => "invalid time interval ".toList ++ Grammar.quote t
        (lines.dropLast).forM (protest name)
        misused name (lines.getLast?.getD []) 1

def startTee (name : Text) (arguments : List Text) : Act Unit := do
  match ({ letters := Grammar.ofLetters "aip" "", names := [("append", 'a')] } : Grammar).parse arguments with
  | .error e => misused name e 1
  | .ok p =>
    let opened ← p.operands.mapM fun path => do
      match ← openAt (if p.has 'a' then .append else .overwrite) path with
      | .ok n => return some n
      | .error f =>
        protest name (path ++ ": ".toList ++ f.reason.toList)
        return none
    push (.chore (.tee (opened.filterMap id) (if opened.all Option.isSome then 0 else 1)))

/-- How long lines are that are written again and again. -/
def repeatedBlock : Nat := 1024

def startYes (arguments : List Text) : Act Unit := do
  let line := if arguments.isEmpty then ['y', '\n'] else Printing.spaced arguments ++ ['\n']
  let count := repeatedBlock / line.length + 1
  push (.chore (.repeat_ (Text.toBytes (List.replicate count line).flatten)))

/-- What `env` is asked for: variables that are set or taken away, and a command. -/
structure Surrounding where
  environment : List (Text × Text)
  command : List Text
  nul : Bool := false

def withVariable (environment : List (Text × Text)) (name value : Text) : List (Text × Text) :=
  if environment.any fun v => v.1 == name then
    environment.map fun v => if v.1 == name then (name, value) else v
  else environment ++ [(name, value)]

/-- The environment and the command that arguments of `env` ask for. -/
def surrounding (environment : List (Text × Text)) (arguments : List Text) : Except Text Surrounding := do
  let g : Grammar :=
    { letters := Grammar.ofLetters "i0v" "uCS", stopsAtOperand := true
      names := [("ignore-environment", 'i'), ("null", '0'), ("unset", 'u'), ("chdir", 'C')] }
  let (clears, arguments) := match arguments with
    | ['-'] :: rest => (true, rest)
    | rest => (false, rest)
  let p ← g.parse arguments
  let start := if clears || p.has 'i' then [] else environment
  let unset := (p.options.filter fun o => o.1 == 'u').map (·.2)
  let kept := start.filter fun v => !unset.contains v.1
  let isSetting (t : Text) : Bool := t.contains '='
  let environment := (p.operands.takeWhile isSetting).foldl (fun e t =>
    match Cut.atFirst? '=' t with
    | some (name, value) => withVariable e name value
    | none => e) kept
  return { environment, command := p.operands.dropWhile isSetting, nul := p.has '0' }

/-- What cannot be used among the options of a program that limits the time of a command. -/
def limitFault? (p : Parsed) (time : Text) : Option Text :=
  let badTime (t : Text) : Option Text :=
    if (duration? t).isNone then some ("invalid time interval ".toList ++ Grammar.quote t) else none
  let badSignal (t : Text) : Option Text :=
    if (limitSignal? t).isNone then some (Grammar.quote t ++ ": invalid signal".toList) else none
  let bad := p.options.findSome? fun o =>
    match o.1 with
    | 'k' => badTime o.2
    | 's' => badSignal o.2
    | _ => none
  bad.or (badTime time)
where
  /-- A signal by its number or its name, which may begin with `SIG`. -/
  limitSignal? (t : Text) : Option Nat :=
    let lower := t.map Ascii.lower
    Builtin.signalOf? 0 (if "sig".toList.isPrefixOf lower then lower.drop 3 else lower)

def startLimit (name : Text) (environment : List (Text × Text)) (arguments : List Text) : Act Unit := do
  let g : Grammar :=
    { letters := Grammar.ofLetters "v" "ks", stopsAtOperand := true
      names := [("kill-after", 'k'), ("signal", 's'), ("verbose", 'v'), ("foreground", 'F'),
        ("preserve-status", 'P')] }
  match g.parse arguments with
  | .error e => misused name e 125
  | .ok p =>
    match p.operands with
    | time :: command@(_ :: _) =>
      match limitFault? p time with
      | some e => misused name e 125
      | none =>
        let path := (environment.lookup "PATH".toList).getD usualPath
        let s ← get
        let program := command.headD []
        match resolve (s.machine.filesOf s.self) (pathsOf path program) command with
        | .error f =>
          protest name ("failed to run command ".toList ++ Grammar.quote program ++ ": ".toList ++
            f.reason.toList)
          die (.code (if f == .notFound then 127 else 126))
        | .ok (file, words) =>
          modifyShell fun sh => { sh with bindings :=
            ⟨environment.map fun (n, v) => (n, { value := some v, exported := true })⟩ }
          let span (t : Text) : Option Nat := ((duration? t).getD none).filter (0 < ·)
          push (.chore (.limit {
            name, command := program, child := ← fork [.begin_ file words] id
            ends := (span time).map (s.machine.clock + ·)
            signal := ((p.argument? 's').bind limitFault?.limitSignal?).elim .terminate Signal.mk
            grace := (p.argument? 'k').bind span
            alone := p.has 'F', keepsStatus := p.has 'P', tells := p.has 'v' }))
    | _ =>
      let hint := "Try '".toList ++ name ++ " --help' for more information.\n".toList
      conclude name { complaints := hint, status := 125 }

/-- Begins a program, at most `fuel` of which begin another one in turn. -/
def begin_ : Nat → Text → List (Text × Text) → List Text → Act Unit
  | 0, _, _, _ => die (.code 127)
  | fuel + 1, program, environment, words => do
    let name := words.headD []
    let arguments := words.drop 1
    let another (environment : List (Text × Text)) (command : List Text) : Act (Option SystemFault) := do
      let s ← get
      let path := (environment.lookup "PATH".toList).getD usualPath
      match resolve (s.machine.filesOf s.self) (pathsOf path (command.headD [])) command with
      | .error f => return some f
      | .ok (program, words) =>
        begin_ fuel program environment words
        return none
    let program := String.ofList program
    match program with
    | "sh" | "dash" => startShell name environment arguments
    | "cat" => startCat name arguments
    | "head" => startHead name arguments
    | "sleep" => startSleep name arguments
    | "tee" => startTee name arguments
    | "yes" => startYes arguments
    | "seq" =>
      match Sequence.ofArguments name arguments with
      | .error r => conclude name r
      | .ok s => push (.chore (.series name s))
    | "env" =>
      match surrounding environment arguments with
      | .error e => misused name e 125
      | .ok s =>
        if s.command.isEmpty then
          let ending := if s.nul then '\x00' else '\n'
          conclude name { output := s.environment.flatMap fun v => v.1 ++ '=' :: v.2 ++ [ending] }
        else
          match ← another s.environment s.command with
          | none => pure ()
          | some f =>
            protest name (Grammar.quote (s.command.headD []) ++ ": ".toList ++ f.reason.toList)
            die (.code (if f == .notFound then 127 else 126))
    | "timeout" => startLimit name environment arguments
    | _ =>
      match LineProgram.find? program with
      | some l => startLines l program name arguments
      | none =>
        let s ← get
        let surroundings : Surroundings :=
          { files := s.machine.filesOf s.self, directory := Builtin.pathOf s.self.directory, environment }
        match atOnce? program surroundings name arguments with
        | none => die (.code 1)
        | some (r, files) =>
          setMachine (s.machine.setFiles files)
          conclude name r

/-- How many programs begin each other at most. -/
def maxPrograms : Nat := 100

def start (program : Text) (environment : List (Text × Text)) (words : List Text) : Act Unit := do
  modifySelf renewed
  commit
  modify fun s => { s with machine := s.machine.sweep }
  begin_ maxPrograms program environment words

end DaemonDialogue.Script.Program
