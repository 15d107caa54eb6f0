import DaemonDialogue.Script.Text

/-!
# Escapes and echoes

A backslash begins an escape. `echo` writes its arguments with blanks between them; within
a script escapes always count, as a program only where they are asked for.
-/

namespace DaemonDialogue.Script.Printing

def isOctal (c : Char) : Bool := '0' ≤ c && c ≤ '7'

/-- The character of at most three octal digits, and what is behind them. -/
def octal (t : Text) : Char × Text :=
  let digits := (t.take 3).takeWhile isOctal
  let value := digits.foldl (fun n c => n * 8 + (c.toNat - '0'.toNat)) 0
  (Char.ofNat (value % 256), t.drop digits.length)

def letters : List (Char × Char) :=
  [('\\', '\\'), ('a', '\x07'), ('b', '\x08'), ('e', '\x1b'), ('f', '\x0c'), ('n', '\n'), ('r', '\r'),
    ('t', '\t'), ('v', '\x0b')]

/-- What is behind a backslash: the character that it stands for, and the rest. A backslash
that begins no escape stands for itself. -/
def escape (t : Text) : Char × Text :=
  match t with
  | [] => ('\\', [])
  | c :: rest =>
    match letters.lookup c with
    | some d => (d, rest)
    | none => if isOctal c then octal (c :: rest) else ('\\', c :: rest)

/-- A text with its escapes replaced, and whether one of them ends all output; `fuel` bounds its
length. -/
def unescapeWithin : Nat → Text → Text × Bool
  | 0, _ => ([], false)
  | _, [] => ([], false)
  | fuel + 1, '\\' :: rest =>
    match rest with
    | 'c' :: _ => ([], true)
    | rest =>
      let start := match rest with
        | '0' :: d :: more => if isOctal d then d :: more else rest
        | rest => rest
      let (c, rest) := escape start
      let (t, ended) := unescapeWithin fuel rest
      (c :: t, ended)
  | fuel + 1, c :: rest =>
    let (t, ended) := unescapeWithin fuel rest
    (c :: t, ended)

/-- A text with its escapes replaced, and whether one of them ends all output. -/
def unescape (t : Text) : Text × Bool := unescapeWithin t.length t

def spaced (ts : List Text) : Text := [' '].intercalate ts

def echo (arguments : List Text) : Text :=
  let (ending, arguments) := match arguments with
    | ['-', 'n'] :: rest => ([], rest)
    | arguments => (['\n'], arguments)
  match unescape (spaced arguments) with
  | (t, true) => t
  | (t, false) => t ++ ending

/-- The character of some octal or hexadecimal digits, as far as they go. -/
def digitsIn (base limit : Nat) (t : Text) : Option (Char × Text) :=
  let digits := (t.take limit).takeWhile fun c => (Ascii.hexDigit? c).any (· < base)
  if digits.isEmpty then none
  else
    let value := digits.foldl (fun n c => n * base + (Ascii.hexDigit? c).getD 0) 0
    some (Char.ofNat (value % 256), t.drop digits.length)

/-- A text as a program replaces its escapes, and whether one of them ends all output; `fuel`
bounds its length. -/
def unescapeFully : Nat → Text → Text × Bool
  | 0, _ => ([], false)
  | _, [] => ([], false)
  | fuel + 1, '\\' :: rest =>
    let goOn (c : Char) (rest : Text) : Text × Bool :=
      let (t, ended) := unescapeFully fuel rest
      (c :: t, ended)
    match rest with
    | 'c' :: _ => ([], true)
    | '0' :: rest =>
      match digitsIn 8 3 rest with
      | some (c, rest) => goOn c rest
      | none => goOn '\x00' rest
    | 'x' :: rest =>
      match digitsIn 16 2 rest with
      | some (c, rest) => goOn c rest
      | none =>
        let (t, ended) := goOn 'x' rest
        ('\\' :: t, ended)
    | c :: rest =>
      match letters.lookup c with
      | some d => goOn d rest
      | none =>
        if isOctal c then
          let (d, rest) := octal (c :: rest)
          goOn d rest
        else
          let (t, ended) := goOn c rest
          ('\\' :: t, ended)
    | [] => (['\\'], false)
  | fuel + 1, c :: rest =>
    let (t, ended) := unescapeFully fuel rest
    (c :: t, ended)

def isEchoOption (argument : Text) : Bool :=
  match argument with
  | '-' :: letters => !letters.isEmpty && letters.all ['n', 'e', 'E'].contains
  | _ => false

def echoProgram (arguments : List Text) : Text :=
  let options := (arguments.takeWhile isEchoOption).flatMap (·.drop 1)
  let t := spaced (arguments.dropWhile isEchoOption)
  let ending := if options.contains 'n' then [] else ['\n']
  let escapes := (options.filter (· != 'n')).getLast? == some 'e'
  match if escapes then unescapeFully (t.length + 1) t else (t, false) with
  | (t, true) => t
  | (t, false) => t ++ ending

end DaemonDialogue.Script.Printing
