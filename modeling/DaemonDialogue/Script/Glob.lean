import DaemonDialogue.File.Tree
import DaemonDialogue.Script.Text

/-!
# Patterns of names

A pattern is a text in which a star stands for any text, a question mark for any
character, and brackets for one of some characters. A backslash takes the meaning from
what is behind it.
-/

namespace DaemonDialogue.Script.Glob

/-- What stands for a character in brackets. -/
inductive Member
  | range (first last : Char)
  | class_ (test : Char → Bool)

inductive Item
  | char (c : Char)
  | any
  | star
  | oneOf (negated : Bool) (members : List Member)

/-- The order of characters, in which the upper half comes first. -/
def rank (c : Char) : Int := if c.toNat < 128 then c.toNat else (c.toNat : Int) - 256

def isPrint (c : Char) : Bool := 32 ≤ c.toNat && c.toNat < 127

def isControl (c : Char) : Bool := c.toNat < 32 || c.toNat == 127

def classes : List (String × (Char → Bool)) :=
  [("alnum", Ascii.isAlphanumeric), ("cntrl", isControl), ("lower", fun c => Ascii.isLetter c && !Ascii.isUpper c),
    ("space", Text.isSpace), ("alpha", Ascii.isLetter), ("digit", Ascii.isDigit), ("print", isPrint),
    ("upper", Ascii.isUpper), ("blank", fun c => c == ' ' || c == '\t'),
    ("graph", fun c => isPrint c && c != ' '),
    ("punct", fun c => isPrint c && c != ' ' && !Ascii.isAlphanumeric c),
    ("xdigit", fun c => (Ascii.hexDigit? c).isSome)]

def class? (t : Text) : Option ((Char → Bool) × Text) :=
  classes.findSome? fun (name, test) =>
    (Cut.behind? ((':' :: name.toList) ++ [':', ']']) t).map fun rest => (test, rest)

/-- The members of brackets that go on with `c`, and what is behind the brackets; `fuel` bounds
their number. -/
def members : Nat → List Member → Char → Text → Option (List Member × Text)
  | 0, _, _, _ => none
  | fuel + 1, ms, c, rest =>
    let goOn (ms : List Member) (rest : Text) : Option (List Member × Text) :=
      match rest with
      | [] => none
      | ']' :: rest => some (ms.reverse, rest)
      | c :: rest => members fuel ms c rest
    let single (c : Char) (rest : Text) : Option (List Member × Text) :=
      match rest with
      | '-' :: ']' :: _ => goOn (.range c c :: ms) rest
      | '-' :: '\\' :: d :: rest => goOn (.range c d :: ms) rest
      | '-' :: d :: rest => goOn (.range c d :: ms) rest
      | rest => goOn (.range c c :: ms) rest
    match c, rest with
    | '[', rest =>
      match class? rest with
      | some (test, rest) => goOn (.class_ test :: ms) rest
      | none => single '[' rest
    | '\\', d :: rest => single d rest
    | c, rest => single c rest

/-- The items of a pattern; `fuel` bounds their number. -/
def items : Nat → Text → List Item
  | 0, _ => []
  | _, [] => []
  | fuel + 1, '\\' :: c :: rest => .char c :: items fuel rest
  | fuel + 1, '?' :: rest => .any :: items fuel rest
  | fuel + 1, '*' :: rest => .star :: items fuel rest
  | fuel + 1, '[' :: rest =>
    let (negated, inside) := match rest with
      | '!' :: inside => (true, inside)
      | inside => (false, inside)
    match inside with
    | c :: more =>
      match members (inside.length + 1) [] c more with
      | some (ms, behind) => .oneOf negated ms :: items fuel behind
      | none => .char '[' :: items fuel rest
    | [] => .char '[' :: items fuel rest
  | fuel + 1, c :: rest => .char c :: items fuel rest

def Member.has (c : Char) : Member → Bool
  | .range first last => rank first ≤ rank c && rank c ≤ rank last
  | .class_ test => test c

def Item.fits (c : Char) : Item → Bool
  | .char d => c == d
  | .any => true
  | .star => false
  | .oneOf negated ms => (ms.any fun m => m.has c) != negated

/-- The texts behind the beginnings of a text that fit a star: all that end a text. -/
def ends : Text → List Text
  | [] => [[]]
  | c :: rest => (c :: rest) :: ends rest

def fits : List Item → Text → Bool
  | [], t => t.isEmpty
  | .star :: rest, t => (ends t).any fun t => fits rest t
  | i :: rest, c :: t => i.fits c && fits rest t
  | _ :: _, [] => false

def matches_ (pattern t : Text) : Bool := fits (items (pattern.length + 1) pattern) t

/-- Does a pattern begin with brackets that are closed before the next slash? -/
def closes : Text → Bool
  | [] => false
  | '\\' :: _ :: rest | _ :: rest =>
    match rest with
    | [] => false
    | '/' :: _ => false
    | ']' :: _ => true
    | rest => closes rest

/-- Is there something in a pattern that can stand for other characters? -/
def hasMeta : Text → Bool
  | [] => false
  | '*' :: _ | '?' :: _ => true
  | '[' :: '!' :: rest => closes rest || hasMeta rest
  | '[' :: rest => closes rest || hasMeta rest
  | '\\' :: _ :: rest => hasMeta rest
  | _ :: rest => hasMeta rest

/-- The characters that a pattern without meaning stands for. -/
def plain : Text → Text
  | '\\' :: c :: rest => c :: plain rest
  | c :: rest => c :: plain rest
  | [] => []

def namesIn (files : File.Tree) (path : Text) : List Text :=
  let path := if path.isEmpty then ['.'] else path
  match files.find ⟨Text.toBytes path⟩ with
  | .ok (.directory entries) =>
    ['.'] :: ['.', '.'] :: entries.map fun e => Text.ofBytes e.1
  | _ => []

/-- A pattern in which slashes stand without backslashes. -/
def bareSlashes : Text → Text
  | '\\' :: '/' :: rest => '/' :: bareSlashes rest
  | '\\' :: c :: rest => '\\' :: c :: bareSlashes rest
  | c :: rest => c :: bareSlashes rest
  | [] => []

def segments (pattern : Text) : List Text := (bareSlashes pattern).splitOn '/'

/-- The paths below `directory` that fit some segments. -/
def expandFrom (files : File.Tree) (directory : Text) : List Text → List Text
  | [] => []
  | segment :: rest =>
    if rest.isEmpty && !hasMeta segment then
      let path := directory ++ plain segment
      if files.contains ⟨Text.toBytes path⟩ then [path] else []
    else if !hasMeta segment then expandFrom files (directory ++ plain segment ++ ['/']) rest
    else
      let dots := (plain (segment.take 2)).head? == some '.'
      let found := (namesIn files directory).filter fun name =>
        (dots || name.head? != some '.') && matches_ segment name
      if rest.isEmpty then found.map (directory ++ ·)
      else found.flatMap fun name => expandFrom files (directory ++ name ++ ['/']) rest

/-- The paths that fit a pattern, in order; none if nothing in it can stand for other
characters. -/
def expand (files : File.Tree) (pattern : Text) : List Text :=
  if (segments pattern).any hasMeta then
    (expandFrom files [] (segments pattern)).mergeSort Text.precedes
  else []

end DaemonDialogue.Script.Glob
