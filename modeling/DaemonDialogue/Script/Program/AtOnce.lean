import DaemonDialogue.Script.Condition
import DaemonDialogue.Script.Printing.Echo
import DaemonDialogue.Script.Printing.Format
import DaemonDialogue.Script.Program.Files
import DaemonDialogue.Script.Program.Worth

/-!
# Programs that end at once

What these programs write hangs on their arguments, their environment and the files alone.
-/

namespace DaemonDialogue.Script.Program

/-- What a program finds: files, the directory in use by name, and its environment. -/
structure Surroundings where
  files : File.Tree
  directory : Text
  environment : List (Text × Text)

/-- A path without the slashes at its end; the root keeps one. -/
def withoutSlashes (path : Text) : Text :=
  match path.reverse.dropWhile (· == '/') with
  | [] => if path.isEmpty then [] else ['/']
  | t => t.reverse

def lastName (path : Text) : Text :=
  let t := withoutSlashes path
  if t == ['/'] then t else (t.reverse.takeWhile (· != '/')).reverse

def directoriesOf (path : Text) : Text :=
  let t := withoutSlashes path
  if t == ['/'] then t
  else
    match t.reverse.dropWhile (· != '/') with
    | [] => ['.']
    | above => withoutSlashes above.reverse

/-- A text without another one at its end, unless nothing would be left. -/
def withoutEnding (ending t : Text) : Text :=
  if ending != t && ending.isSuffixOf t then t.take (t.length - ending.length) else t

def lines (ts : List Text) : Text := ts.flatMap (· ++ ['\n'])

def baseNames (name : Text) (arguments : List Text) : Result :=
  let grammar : Grammar :=
    { letters := Grammar.ofLetters "az" "s", names := [("multiple", 'a'), ("suffix", 's'), ("zero", 'z')]
      stopsAtOperand := true }
  match grammar.parse arguments with
  | .error e => .misused name e 1
  | .ok p =>
    let many := p.has 'a' || p.has 's'
    match p.operands with
    | [] => .misused name "missing operand".toList 1
    | [t] => { output := lines [withoutEnding ((p.argument? 's').getD []) (lastName t)] }
    | t :: ending :: rest =>
      if many then
        { output := lines (p.operands.map fun t => withoutEnding ((p.argument? 's').getD []) (lastName t)) }
      else
        match rest with
        | [] => { output := lines [withoutEnding ending (lastName t)] }
        | extra :: _ => .misused name ("extra operand ".toList ++ Grammar.quote extra) 1

def directoryNames (name : Text) (arguments : List Text) : Result :=
  match ({ letters := Grammar.ofLetters "z" "", names := [("zero", 'z')] } : Grammar).parse arguments with
  | .error e => .misused name e 1
  | .ok p =>
    if p.operands.isEmpty then .misused name "missing operand".toList 1
    else { output := lines (p.operands.map directoriesOf) }

def tested (s : Surroundings) (name : Text) (arguments : List Text) : Result :=
  let words (f : Condition.Fault) : Text :=
    match f with
    | .unexpected t => "extra argument ".toList ++ Grammar.quote t
    | .argumentExpected t => "missing argument after ".toList ++ Grammar.quote t
    | .notClosed => "')' expected".toList
    | .notANumber t => "invalid integer ".toList ++ Grammar.quote t
    | .missingBracket => "missing ']'".toList
  let closed := arguments.getLast? == some [']']
  match if lastName name == ['['] && !closed then .error .missingBracket
    else Condition.ofCommand s.files (lastName name) arguments with
  | .ok b => { status := if b then 0 else 1 }
  | .error f => { complaints := complaint name (words f), status := 2 }

def printed (name : Text) (arguments : List Text) : Result :=
  match arguments with
  | [] | [['-', '-']] => .misused name "missing operand".toList 1
  | ['-', '-'] :: format :: rest | format :: rest =>
    let p := Printing.printfProgram format rest
    let warnings := p.warnings ++ p.fault.toList
    { output := p.text, complaints := warnings.flatMap fun f => complaint name f.programMessage
      status := if warnings.isEmpty then 0 else 1 }

def environmentOf (s : Surroundings) (arguments : List Text) : Result :=
  match arguments with
  | [] => { output := lines (s.environment.map fun v => v.1 ++ '=' :: v.2) }
  | names =>
    let found := names.map fun n => s.environment.lookup n
    { output := lines (found.filterMap id), status := if found.all Option.isSome then 0 else 1 }

/-- A program that ends at once: what comes of it, and the files behind it. -/
def atOnce? (program : String) (s : Surroundings) (name : Text) (arguments : List Text) :
    Option (Result × File.Tree) :=
  let plain (r : Result) : Option (Result × File.Tree) := some (r, s.files)
  match program with
  | "true" => plain {}
  | "false" => plain { status := 1 }
  | "echo" => plain { output := Printing.echoProgram arguments }
  | "printf" => plain (printed name arguments)
  | "pwd" => plain { output := s.directory ++ ['\n'] }
  | "test" | "[" => plain (tested s name arguments)
  | "basename" => plain (baseNames name arguments)
  | "dirname" => plain (directoryNames name arguments)
  | "printenv" => plain (environmentOf s arguments)
  | "whoami" => plain { output := "root\n".toList }
  | "expr" => plain (Worth.shown name arguments)
  | "tty" => plain { output := "not a tty\n".toList, status := 1 }
  | _ => changing? program s.files name arguments

end DaemonDialogue.Script.Program
