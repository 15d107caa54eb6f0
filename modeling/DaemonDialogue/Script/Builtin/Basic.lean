import DaemonDialogue.Script.Act
import DaemonDialogue.Script.Executable

/-!
# Commands that shells run themselves

Some of these commands are special: what is assigned before them lasts, no function takes
their place, and a fault in them ends a script.
-/

namespace DaemonDialogue.Script

inductive Builtin
  | source
  | colon
  | alias_
  | background
  | break_
  | cd
  | command
  | continue_
  | echo
  | eval
  | exec
  | exit
  | export_
  | false_
  | foreground
  | getopts
  | hash
  | jobs
  | kill
  | local_
  | printf
  | pwd
  | read
  | readonly
  | return_
  | set
  | shift
  | test
  | times
  | trap
  | true_
  | type
  | ulimit
  | umask
  | unalias
  | unset
  | wait
  deriving DecidableEq, Repr, Inhabited

namespace Builtin

def table : List (String × Builtin) :=
  [(".", .source), (":", .colon), ("[", .test), ("alias", .alias_), ("bg", .background),
    ("break", .break_), ("cd", .cd), ("chdir", .cd), ("command", .command), ("continue", .continue_),
    ("echo", .echo), ("eval", .eval), ("exec", .exec), ("exit", .exit), ("export", .export_),
    ("false", .false_), ("fg", .foreground), ("getopts", .getopts), ("hash", .hash), ("jobs", .jobs),
    ("kill", .kill), ("local", .local_), ("printf", .printf), ("pwd", .pwd), ("read", .read),
    ("readonly", .readonly), ("return", .return_), ("set", .set), ("shift", .shift), ("test", .test),
    ("times", .times), ("trap", .trap), ("true", .true_), ("type", .type), ("ulimit", .ulimit),
    ("umask", .umask), ("unalias", .unalias), ("unset", .unset), ("wait", .wait)]

def ofName? (name : Text) : Option Builtin :=
  (table.find? fun e => e.1.toList == name).map (·.2)

def isSpecial (b : Builtin) : Bool :=
  [.source, .colon, .break_, .continue_, .eval, .exec, .exit, .export_, .local_, .readonly, .return_,
    .set, .shift, .times, .trap, .unset].contains b

/-- Are arguments of the form of assignments expanded like those? -/
def declares (b : Builtin) : Bool := [.alias_, .export_, .local_, .readonly].contains b

end Builtin

/-- What a name stands for where a command begins. -/
inductive Lookup
  | function (f : Function)
  | builtin (b : Builtin)
  | program (path : Text)
  | missing (f : SystemFault)
  deriving Inhabited

namespace Lookup

/-- What a name stands for. A name with a slash is a path, which is not looked at. -/
def find (files : File.Tree) (s : Shell) (manner : Manner) (path name : Text) : Lookup :=
  if name.contains '/' then .program name
  else
    match if manner.pastFunctions then none else s.functions.lookup name, Builtin.ofName? name with
    | some f, _ => .function f
    | none, some b => .builtin b
    | none, none =>
      match if manner.usualPath then none else s.known.lookup name with
      | some p => .program p
      | none =>
        match Executable.find files path name with
        | .ok p => .program p
        | .error f => .missing f

end Lookup

namespace Act

/-- Where programs are looked for unless a script says otherwise. -/
def usualPath : Text := "/usr/local/sbin:/usr/local/bin:/usr/sbin:/usr/bin:/sbin:/bin".toList

/-- What a name stands for; a program that was found is remembered. -/
def lookup (manner : Manner) (name : Text) : Act Lookup := do
  let s ← get
  let path := if manner.usualPath then usualPath else s.self.shell.path
  let found := Lookup.find (s.machine.filesOf s.self) s.self.shell manner path name
  match found with
  | .program p =>
    if !name.contains '/' && !manner.usualPath then
      modifyShell fun sh =>
        if sh.known.any fun k => k.1 == name then sh else { sh with known := sh.known ++ [(name, p)] }
  | _ => pure ()
  return found

/-- Ends a command of the shell with some output. -/
def reply (t : Text) (status : Nat) : Act Unit := do
  setStatus status
  if !(← write 1 t) then
    let name := (← shell).command.getD []
    complain (name ++ ": I/O error".toList)
    setStatus (status ||| 1)

def illegalNumber (t : Text) : Act Unit := fault ("Illegal number: ".toList ++ t)

end Act

/-- The options before some arguments, each with its own argument if it takes one, and the
arguments that are left; `spec` holds the letters and whether they take an argument, and `fuel`
bounds the number of options. -/
def optionsWithin (spec : List (Char × Bool)) : Nat → List Text →
    Except Text (List (Char × Text) × List Text)
  | fuel + 1, ('-' :: c :: letters) :: rest =>
    if c == '-' && letters.isEmpty then .ok ([], rest)
    else
      match spec.lookup c with
      | none => .error ("Illegal option -".toList ++ [c])
      | some false => do
        let behind := if letters.isEmpty then rest else ('-' :: letters) :: rest
        if letters.head? == some '-' && letters.length == 1 then
          .error "Illegal option --".toList
        else
          let (found, left) ← optionsWithin spec fuel behind
          return ((c, []) :: found, left)
      | some true =>
        match letters, rest with
        | [], [] => .error ("No arg for -".toList ++ c :: " option".toList)
        | [], argument :: rest => do
          let (found, left) ← optionsWithin spec fuel rest
          return ((c, argument) :: found, left)
        | letters, rest => do
          let (found, left) ← optionsWithin spec fuel rest
          return ((c, letters) :: found, left)
  | _, arguments => .ok ([], arguments)

def options (spec : List (Char × Bool)) (arguments : List Text) :
    Except Text (List (Char × Text) × List Text) :=
  optionsWithin spec (Text.total (arguments.map List.length) + 1) arguments

end DaemonDialogue.Script
