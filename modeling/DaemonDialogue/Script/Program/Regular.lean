import DaemonDialogue.Script.Glob
import DaemonDialogue.Text.Cut

/-!
# Regular expressions of line programs

What an expression matches is a list of places where it may end, the longest first. A choice
is decided by length, not by order, and each part, from the left, is as long as it can be.
-/

namespace DaemonDialogue.Script.Program

/-- A place in a text: what is before it and behind it, and what the groups stand for so far. -/
structure Place where
  before : Option Char := none
  rest : Text
  position : Nat := 0
  groups : List (Nat × Text) := []
  deriving Repr, Inhabited

namespace Place

/-- The place behind the next character, if that passes a test. -/
def step (test : Char → Bool) (p : Place) : List Place :=
  match p.rest with
  | [] => []
  | c :: rest => if test c then [{ p with before := some c, rest, position := p.position + 1 }] else []

/-- The places from the last to the first, each of them once: of equal ones the first that is listed. -/
def longestFirst (ps : List Place) : List Place :=
  let sorted := ps.mergeSort fun a b => b.position ≤ a.position
  sorted.foldr (fun p kept =>
    p :: kept.dropWhile fun q => q.position == p.position) []

/-- The places from here on, up to the end of the text. -/
def onward (p : Place) : List Place :=
  let ahead := p.rest.foldl (fun (found : List Place × Place) c =>
    let q : Place :=
      { found.2 with before := some c, rest := found.2.rest.drop 1, position := found.2.position + 1 }
    (q :: found.1, q)) ([p], p)
  ahead.1.reverse

end Place

/-- What is asked of a place itself. -/
inductive Edge
  | start
  | finish
  | wordStart
  | wordEnd
  | wordEdge
  | inside
  deriving DecidableEq, Repr

/-- Does a place have what is asked of it? With `lines`, lines begin and end within the text, too. -/
def Edge.holds (lines : Bool) (e : Edge) (p : Place) : Bool :=
  let isPart (c : Option Char) : Bool := c.any Text.isNameChar
  let behind := p.rest.head?
  match e with
  | .start => p.before.isNone || (lines && p.before == some '\n')
  | .finish => p.rest.isEmpty || (lines && behind == some '\n')
  | .wordStart => !isPart p.before && isPart behind
  | .wordEnd => isPart p.before && !isPart behind
  | .wordEdge => isPart p.before != isPart behind
  | .inside => isPart p.before == isPart behind

inductive Regular
  | empty
  | any
  | char (c : Char)
  | oneOf (negated : Bool) (members : List Glob.Member)
  | edge (e : Edge)
  | both (first second : Regular)
  | either (first second : Regular)
  | group (number : Nat) (body : Regular)
  | same (number : Nat)
  | repeated (body : Regular) (least : Nat) (most : Option Nat)
  deriving Inhabited

namespace Regular

/-- How texts are compared: without regard to case, and with lines within them. -/
structure Manner where
  folds : Bool := false
  lines : Bool := false
  deriving DecidableEq, Repr, Inhabited

def Manner.equal (m : Manner) (a b : Char) : Bool :=
  a == b || (m.folds && Ascii.lower a == Ascii.lower b)

def Manner.among (m : Manner) (members : List Glob.Member) (c : Char) : Bool :=
  let has (c : Char) : Bool := members.any fun
    | .range a b => a ≤ c && c ≤ b
    | .class_ test => test c
  has c || (m.folds && (has (Ascii.lower c) || has (Ascii.upper c)))

def times (next : Place → List Place) : Nat → List Place → List Place
  | 0, ps => ps
  | n + 1, ps => times next n (Place.longestFirst (ps.flatMap next))

/-- The places after any number of steps up to `n`. -/
def upTo (next : Place → List Place) : Nat → List Place → List Place → List Place
  | 0, _, found => found
  | n + 1, ps, found =>
    let new := (Place.longestFirst (ps.flatMap next)).filter fun p =>
      found.all fun q => q.position != p.position
    if new.isEmpty then found else upTo next n new (new ++ found)

def ends (m : Manner) : Regular → Place → List Place
  | .empty, p => [p]
  | .any, p => p.step fun _ => true
  | .char c, p => p.step (m.equal c)
  | .oneOf negated members, p => p.step fun c => m.among members c != negated
  | .edge e, p => if e.holds m.lines p then [p] else []
  | .both a b, p => Place.longestFirst ((ends m a p).flatMap fun q => ends m b q)
  | .either a b, p => Place.longestFirst (ends m a p ++ ends m b p)
  | .group n a, p => (ends m a p).map fun q =>
    { q with groups := (n, p.rest.take (q.position - p.position)) :: q.groups }
  | .same n, p =>
    match p.groups.lookup n with
    | none => []
    | some t => times (fun q => (t[q.position - p.position]?).elim [] fun c => q.step (m.equal c)) t.length [p]
  | .repeated a least most, p =>
    let next (q : Place) : List Place := ends m a q
    let begun := times next least [p]
    let more := (most.map (· - least)).getD (p.rest.length + 1)
    Place.longestFirst (upTo next more begun begun)

/-- The first match from a place on, and there the longest: where it begins and where it ends. -/
def find? (m : Manner) (r : Regular) (p : Place) : Option (Place × Place) :=
  p.onward.findSome? fun q => (r.ends m { q with groups := [] }).head?.map fun e => (q, e)

def groups : Regular → Nat
  | .both a b | .either a b => max a.groups b.groups
  | .group n a => max n a.groups
  | .repeated a _ _ => a.groups
  | _ => 0

/-- What can be wrong with an expression. -/
inductive Fault
  | openBracket
  | className
  | rangeEnd
  | openGroup
  | closedGroup
  | openCount
  | count
  | tooBig
  | backslash
  | reference
  deriving DecidableEq, Repr

def Fault.message : Fault → String
  | .openBracket => "Unmatched [, [^, [:, [., or [="
  | .className => "Invalid character class name"
  | .rangeEnd => "Invalid range end"
  | .openGroup => "Unmatched ( or \\("
  | .closedGroup => "Unmatched ) or \\)"
  | .openCount => "Unmatched \\\x7b"
  | .count => "Invalid content of \\\x7b\\\x7d"
  | .tooBig => "Regular expression too big"
  | .backslash => "Trailing backslash"
  | .reference => "Invalid back reference"

/-- The parts of an expression that stand for more than themselves. -/
inductive Special
  | open_
  | close
  | bar
  | star
  | plus
  | option
  | count
  deriving DecidableEq, Repr

/-- The part that a text begins with: in a plain expression, all but the star have a backslash. -/
def special? (extended : Bool) (t : Text) : Option (Special × Text) :=
  let named (c : Char) : Option Special :=
    match c with
    | '(' => some .open_
    | ')' => some .close
    | '|' => some .bar
    | '+' => some .plus
    | '?' => some .option
    | '\x7b' => some .count
    | _ => none
  match t with
  | '*' :: rest => some (.star, rest)
  | '\\' :: c :: rest => if extended then none else (named c).map fun s => (s, rest)
  | c :: rest => if extended then (named c).map fun s => (s, rest) else none
  | [] => none

/-- What a backslash and a letter stand for. -/
def escaped? (c : Char) : Option Regular :=
  match c with
  | 'w' => some (.oneOf false [.class_ Text.isNameChar])
  | 'W' => some (.oneOf true [.class_ Text.isNameChar])
  | 's' => some (.oneOf false [.class_ Text.isSpace])
  | 'S' => some (.oneOf true [.class_ Text.isSpace])
  | 'b' => some (.edge .wordEdge)
  | 'B' => some (.edge .inside)
  | '<' => some (.edge .wordStart)
  | '>' => some (.edge .wordEnd)
  | _ => none

def bracketChar : Text → Option (Char × Text)
  | '[' :: '.' :: c :: '.' :: ']' :: rest | '[' :: '=' :: c :: '=' :: ']' :: rest => some (c, rest)
  | c :: rest => some (c, rest)
  | [] => none

/-- The members of brackets, and what is behind those; `fuel` bounds their number. -/
def bracket : Nat → Bool → List Glob.Member → Text → Except Fault (List Glob.Member × Text)
  | 0, _, _, _ | _, _, _, [] => .error .openBracket
  | fuel + 1, isFirst, members, t@(c :: rest) =>
    if c == ']' && !isFirst then .ok (members, rest)
    else
      match t with
      | '[' :: ':' :: named =>
        match Glob.class? t.tail with
        | some (test, rest) => bracket fuel false (.class_ test :: members) rest
        | none => .error (if named.contains ']' then .className else .openBracket)
      | _ =>
        match bracketChar t with
        | none => .error .openBracket
        | some (a, '-' :: ']' :: rest) => .ok (.range '-' '-' :: .range a a :: members, rest)
        | some (a, '-' :: rest) =>
          match bracketChar rest with
          | none => .error .openBracket
          | some (b, rest) =>
            if b < a then .error .rangeEnd else bracket fuel false (.range a b :: members) rest
        | some (a, rest) => bracket fuel false (.range a a :: members) rest

def maxCount : Nat := 32767

def count (extended : Bool) (t : Text) : Except Fault (Nat × Option Nat × Text) :=
  let ending : Text := if extended then ['\x7d'] else ['\\', '\x7d']
  let first := t.takeWhile Ascii.isDigit
  let rest := t.drop first.length
  let least := Ascii.digitsValue first
  let ended (most : Option Nat) (rest : Text) : Except Fault (Nat × Option Nat × Text) :=
    match Cut.behind? ending rest with
    | some rest =>
      if most.any (· < least) then .error .count
      else if maxCount < max least (most.getD 0) then .error .tooBig
      else .ok (least, most, rest)
    | none => .error (if rest.isEmpty then .openCount else .count)
  match rest with
  | ',' :: rest =>
    let second := rest.takeWhile Ascii.isDigit
    ended (if second.isEmpty then none else some (Ascii.digitsValue second)) (rest.drop second.length)
  | rest => if first.isEmpty then .error (if rest.isEmpty then .openCount else .count) else ended (some least) rest

/-- What is read of a group so far: the choices before, and the parts since, the last one first. -/
structure Level where
  number : Nat
  choices : List Regular := []
  parts : List Regular := []
  deriving Inhabited

namespace Level

/-- The parts since the last choice as one expression. -/
def branch (l : Level) : Regular :=
  match l.parts with
  | [] => .empty
  | last :: before => before.foldl (fun behind part => .both part behind) last

def whole (l : Level) : Regular := l.choices.foldl (fun later r => .either r later) l.branch

def add (l : Level) (r : Regular) : Level := { l with parts := r :: l.parts }

/-- Is a star only itself here? -/
def atStart (l : Level) : Bool :=
  match l.parts with
  | [] | .edge .start :: _ => true
  | _ => false

/-- The group with its last part repeated. -/
def repeatLast (l : Level) (least : Nat) (most : Option Nat) : Level :=
  match l.parts with
  | [] => l
  | last :: before => { l with parts := .repeated last least most :: before }

end Level

/-- Reads an expression: the group that is open, those around it, and how many there were; `fuel`
bounds the length. -/
def readWithin (extended : Bool) : Nat → Level → List Level → Nat → Text → Except Fault Regular
  | 0, l, _, _, _ => .ok l.whole
  | fuel + 1, l, around, n, t =>
    let goOn (l : Level) (rest : Text) : Except Fault Regular := readWithin extended fuel l around n rest
    let repeated (c : Char) (least : Nat) (most : Option Nat) (rest : Text) : Except Fault Regular :=
      if !extended && l.atStart then goOn (l.add (.char c)) rest else goOn (l.repeatLast least most) rest
    match special? extended t with
    | some (.open_, rest) => readWithin extended fuel { number := n + 1 } (l :: around) (n + 1) rest
    | some (.close, rest) =>
      match around with
      | outer :: around =>
        readWithin extended fuel (outer.add (.group l.number l.whole)) around n rest
      | [] => if extended then goOn (l.add (.char ')')) rest else .error .closedGroup
    | some (.bar, rest) => goOn { l with choices := l.branch :: l.choices, parts := [] } rest
    | some (.star, rest) => repeated '*' 0 none rest
    | some (.plus, rest) => repeated '+' 1 none rest
    | some (.option, rest) => repeated '?' 0 (some 1) rest
    | some (.count, rest) =>
      match count extended rest with
      | .ok (least, most, rest) => repeated '\x7b' least most rest
      | .error f =>
        if extended && f != .tooBig && (rest.takeWhile (· != '\x7d')).any (fun c => !Ascii.isDigit c && c != ',')
        then goOn (l.add (.char '\x7b')) rest
        else if extended && !rest.contains '\x7d' then goOn (l.add (.char '\x7b')) rest
        else if !extended && l.parts.isEmpty then goOn (l.add (.char '\x7b')) rest
        else .error f
    | none =>
      match t with
      | [] => if around.isEmpty then .ok l.whole else .error .openGroup
      | ['\\'] => .error .backslash
      | '\\' :: c :: rest =>
        match Ascii.digit? c with
        | some d =>
          if d = 0 then goOn (l.add (.char c)) rest
          else if d ≤ n && !(around.any fun o => o.number == d) && l.number != d then goOn (l.add (.same d)) rest
          else .error .reference
        | none => goOn (l.add ((escaped? c).getD (.char c))) rest
      | '[' :: '^' :: rest => do
        let (members, rest) ← bracket (rest.length + 1) true [] rest
        goOn (l.add (.oneOf true members)) rest
      | '[' :: rest => do
        let (members, rest) ← bracket (rest.length + 1) true [] rest
        goOn (l.add (.oneOf false members)) rest
      | '.' :: rest => goOn (l.add .any) rest
      | '^' :: rest => goOn (l.add (if extended || l.parts.isEmpty then .edge .start else .char '^')) rest
      | '$' :: rest =>
        let ends := rest.isEmpty || match special? extended rest with
          | some (.close, _) | some (.bar, _) => true
          | _ => false
        goOn (l.add (if extended || ends then .edge .finish else .char '$')) rest
      | c :: rest => goOn (l.add (.char c)) rest

def read (extended : Bool) (t : Text) : Except Fault Regular :=
  readWithin extended (t.length + 1) { number := 0 } [] 0 t

/-- The expression that stands for a text itself. -/
def ofText (t : Text) : Regular := ({ number := 0, parts := (t.map .char).reverse } : Level).branch

def matchesIn (m : Manner) (r : Regular) (t : Text) : Bool := (r.find? m { rest := t }).isSome

end Regular
end DaemonDialogue.Script.Program
