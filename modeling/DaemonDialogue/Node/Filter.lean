import DaemonDialogue.Node.Journal
import DaemonDialogue.Pattern.Reader
import DaemonDialogue.Text.Property.Alphabetic

/-!
# Filters of journals

A filter is a list of directives, parted by commas: a level for everything, or a part of
the node, perhaps with a span of work and tests on fields between brackets, and a level.
Of the directives that are about a line the one with the longest name of a part decides,
then the one with the most fields, then the last one.
-/

namespace DaemonDialogue.Node

/-- The least level that is written; nothing is written without one. -/
abbrev Threshold := Option Log.Level

def Threshold.allows (t : Threshold) (level : Log.Level) : Bool :=
  match t with
  | none => false
  | some least => least.rank ≤ level.rank

/-- A test on a field: that it is there, or also that it has a value. -/
structure FieldTest where
  name : String
  value : Option String := none
  deriving DecidableEq, Repr

/-- A directive: for the parts whose names start with `target`, or for all; only within a span
of work, if it names one, and only where all its fields are. -/
structure Directive where
  target : Option String := none
  span : Option String := none
  fields : List FieldTest := []
  threshold : Threshold := some .trace
  deriving DecidableEq, Repr

namespace Directive

def thresholds : List Threshold := [none, some .error, some .warn, some .info, some .debug, some .trace]

def thresholdName : Threshold → String
  | none => "off"
  | some level => level.name

/-- The threshold that a word names, in any case or by number. -/
def thresholdOf? (word : String) : Option Threshold :=
  match Numeral.read Numeral.maxU64 word with
  | .ok n => thresholds[n]?
  | .error _ =>
    let word := String.ofList (word.toList.map Ascii.lower)
    thresholds.find? fun t => thresholdName t == word

/-! ## Reading -/

/-- What a reader of a directive has begun, with the place where it began. -/
inductive Stage
  | start
  | word (origin : Nat)
  | span (origin : Nat)
  | field (origin : Nat)
  | fields
  | bracketed
  | level (origin : Nat)
  deriving DecidableEq, Repr

def canStart (c : Char) : Bool :=
  c == '-' || c == ':' || c == '_' || isAlphanumeric c

/-- Can a regular expression be the value of a field? Words of all scripts have no edges there. -/
def isValuePattern (text : String) : Bool :=
  match Pattern.readExpr text with
  | some e => !hasEdges e
  | none => false
where
  hasEdges : Pattern.Expr → Bool
    | .assert (.word ascii _) => !ascii
    | .repeated body _ _ _ => hasEdges body
    | .group _ body => hasEdges body
    | .sequence parts => anyHasEdges parts
    | .choice parts => anyHasEdges parts
    | _ => false
  anyHasEdges : List Pattern.Expr → Bool
    | [] => false
    | e :: rest => hasEdges e || anyHasEdges rest

def fieldTest? (text : String) : Option FieldTest :=
  if text.isEmpty then none
  else
    match text.toList.splitOn '=' with
    | name :: value :: _ =>
      let value := String.ofList value
      if isValuePattern value then some ⟨String.ofList name, some value⟩ else none
    | name => some ⟨String.ofList name.flatten, none⟩

/-- Takes one more character at a place; `cut` is the text from an earlier place up to it. -/
def step (cut : Nat → String) (d : Directive) (place : Nat) (c : Char) :
    Stage → Option (Directive × Stage)
  | .start =>
    if c == '[' then some (d, .span (place + 1))
    else if canStart c then some (d, .word place)
    else none
  | .word origin =>
    if c == '=' then some ({ d with target := some (cut origin) }, .level (place + 1))
    else if c == '[' then some ({ d with target := some (cut origin) }, .span (place + 1))
    else some (d, .word origin)
  | .span origin =>
    if c == ']' then some ({ d with span := some (cut origin) }, .bracketed)
    else if c == '\x7b' then
      let name := cut origin
      some ({ d with span := if name.isEmpty then none else some name }, .field (place + 1))
    else some (d, .span origin)
  | .field origin =>
    if c == '\x7d' then
      (fieldTest? (cut origin)).map fun test => ({ d with fields := d.fields ++ [test] }, .fields)
    else some (d, .field origin)
  | .fields => if c == ']' then some (d, .bracketed) else none
  | .bracketed => if c == '=' then some (d, .level (place + 1)) else none
  | .level origin => some (d, .level origin)

/-- Reads characters, the first of which is at a place, with the bytes of the whole text. -/
def run (bytes : List UInt8) (d : Directive) (stage : Stage) (place : Nat) :
    List Char → Option (Directive × Stage)
  | [] => some (d, stage)
  | c :: rest =>
    let cut := fun origin => Utf8.decode ((bytes.drop origin).take (place - origin))
    match step cut d place c stage with
    | some (d, stage) => run bytes d stage (place + c.utf8Size) rest
    | none => none

/-- The directive of a text. Blanks around it do not count as characters, but places are counted
from the first blank on, and a last word reaches to the last blank. -/
def read? (text : String) : Option Directive := do
  let bytes := Utf8.encode text
  let (d, stage) ← run bytes {} .start 0 (trim text).toList
  let last := fun origin => Utf8.decode (bytes.drop origin)
  match stage with
  | .word origin =>
    match thresholdOf? (last origin) with
    | some t => some { d with threshold := t }
    | none => some { d with target := some (last origin) }
  | .level origin =>
    let word := last origin
    if word.isEmpty then some d else do some { d with threshold := ← thresholdOf? word }
  | .bracketed => some d
  | _ => none

/-! ## Deciding -/

/-- Is the directive about lines, and not only about spans of work? -/
def isAboutLines (d : Directive) : Bool :=
  d.span.isNone && d.fields.all (·.value.isNone)

/-- Is the directive about the lines of a part? The one field of a line is its message. -/
def covers (d : Directive) (topic : Topic) : Bool :=
  d.isAboutLines && d.fields.all (·.name == "message") &&
    match d.target with
    | none => true
    | some target => target.toList.isPrefixOf topic.name.toList

/-- How specific a directive is: the length of its name of a part, and its number of fields. -/
def reach (d : Directive) : Nat × Nat :=
  (d.target.elim 0 (·.length + 1), d.fields.length)

def outdoes (d e : Directive) : Bool :=
  e.reach.1 < d.reach.1 || (e.reach.1 == d.reach.1 && e.reach.2 ≤ d.reach.2)

end Directive

abbrev Filter := List Directive

namespace Filter

/-- The filter of a text; `none` if one of its directives cannot be read. -/
def read? (text : String) : Option Filter :=
  ((text.toList.splitOn ',').filter (!·.isEmpty)).mapM fun part => Directive.read? (String.ofList part)

def decisive? (f : Filter) (topic : Topic) : Option Directive :=
  (f.filter (·.covers topic)).foldl (fun best d =>
    match best with
    | some e => if d.outdoes e then some d else some e
    | none => some d) none

def visible (f : Filter) : Visibility := fun topic level =>
  match f.decisive? topic with
  | some d => d.threshold.allows level
  | none => false

/-- The filter in force: the one of the environment if it can be read. -/
def inForce (verbose : Bool) (text? : Option String) : Filter :=
  match text?.bind read? with
  | some f => f
  | none => [{ threshold := some (if verbose then .debug else .info) }]

end Filter
end DaemonDialogue.Node
