import DaemonDialogue.Json.Reader
import DaemonDialogue.Json.Writer
import DaemonDialogue.Text.Numeral

/-!
# Typed reading of JSON values

A record is an object or an array of its fields in order, an enumeration a name
or an object of one name. Members are judged in the order of the text, so the
first fault of the text is the one reported, and only then a missing field.

A value can be read at once or kept until it is known what it should be. Both
accept the same values but word some faults differently; what is kept is never
passed over.
-/

namespace DaemonDialogue.Json

/-- Whether a value is read at once or was kept before. -/
inductive Reading
  | direct
  | kept
  deriving DecidableEq, Repr

/-- Why a value is not one of a type. -/
inductive Mismatch
  | malformed
  | invalidType (found expected : String)
  | invalidValue (found expected : String)
  | invalidLength (length : Nat) (expected : String)
  | unknownVariant (name : String) (known : List String)
  | missingField (name : String)
  | duplicateField (name : String)
  deriving DecidableEq, Repr

abbrev Decoded (α : Type) := Except Mismatch α

def backquoted (name : String) : String :=
  "\x60" ++ name ++ "\x60"

/-- The names that would have been right. -/
def oneOf : List String → String
  | [] => "there are no variants"
  | [a] => "expected " ++ backquoted a
  | [a, b] => "expected " ++ backquoted a ++ " or " ++ backquoted b
  | names => "expected one of " ++ ", ".intercalate (names.map backquoted)

/-- The wording of a mismatch; all that is malformed is worded alike. -/
def Mismatch.message : Mismatch → String
  | .malformed => "<syntax>"
  | .invalidType found expected => s!"invalid type: {found}, expected {expected}"
  | .invalidValue found expected => s!"invalid value: {found}, expected {expected}"
  | .invalidLength n expected => s!"invalid length {n}, expected {expected}"
  | .unknownVariant name known => "unknown variant " ++ backquoted name ++ ", " ++ oneOf known
  | .missingField name => "missing field " ++ backquoted name
  | .duplicateField name => "duplicate field " ++ backquoted name

def describe : Draft → String
  | .null => "null"
  | .bool true => "boolean " ++ backquoted "true"
  | .bool false => "boolean " ++ backquoted "false"
  | .integer i => "integer " ++ backquoted (toString i)
  | .real x => "floating point " ++ backquoted x.render
  | .string s => "string " ++ quoted s
  | .array _ => "sequence"
  | .object _ => "map"
  | .senseless => "nothing"

def wrongType (expected : String) (value : Draft) : Mismatch :=
  .invalidType (describe value) expected

def textNamed (expected : String) : Draft → Decoded String
  | .string s => .ok s
  | v => .error (wrongType expected v)

def text : Draft → Decoded String := textNamed "a string"

/-- An unsigned integer of at most `bound`, of a type called `kind`. -/
def unsigned (kind : String) (bound : Nat) : Draft → Decoded Nat
  | .integer i =>
    if 0 ≤ i ∧ i ≤ bound then .ok i.toNat
    else .error (.invalidValue (describe (.integer i)) kind)
  | v => .error (wrongType kind v)

def u64 : Draft → Decoded Nat := unsigned "u64" Numeral.maxU64
def u32 : Draft → Decoded Nat := unsigned "u32" Numeral.maxU32

/-- The name of a member that is not passed over. -/
def meantName : Option String → Decoded String
  | some name => .ok name
  | none => .error .malformed

def meantMembers (members : List (Option String × Draft)) : Decoded (List (String × Draft)) :=
  members.mapM fun (name, d) => do return (← meantName name, d)

/-- The value of a draft that is not passed over. -/
def meant (d : Draft) : Decoded Json :=
  match d.value? with
  | some v => .ok v
  | none => .error .malformed

/-- The place of a name among the names of an enumeration. -/
def variantIndex (names : List String) (name : String) : Decoded Nat :=
  match names.findIdx? (· == name) with
  | some i => .ok i
  | none => .error (.unknownVariant name names)

/-- The empty content of a variant without data. -/
def unitContent (how : Reading) : Draft → Decoded Unit
  | .null => .ok ()
  | .object [] => if how = .kept then .ok () else .error (wrongType "unit" (.object []))
  | v => .error (wrongType "unit" v)

/-- The variant without data that a value names, by its place among `names`. -/
def unitVariant (how : Reading) (names : List String) : Draft → Decoded Nat
  | .string s => variantIndex names s
  | .object [(name, content)] => do
    let i ← variantIndex names (← meantName name)
    unitContent how content
    return i
  | .object ((name, content) :: _ :: _) =>
    match how with
    | .kept => .error (.invalidValue "map" "map with a single key")
    | .direct => do
      let _ ← variantIndex names (← meantName name)
      unitContent how content
      .error .malformed
  | .object [] =>
    match how with
    | .kept => .error (.invalidValue "map" "map with a single key")
    | .direct => .error .malformed
  | v =>
    match how with
    | .kept => .error (wrongType "string or map" v)
    | .direct => .error .malformed

/-- A field of a record: its name, whether a value suits it, and what stands for it
where it is missing. -/
structure Field where
  name : String
  judge : Draft → Decoded Unit
  fallback : Option Draft := none

def judged {α : Type} (read : Draft → Decoded α) (v : Draft) : Decoded Unit :=
  (read v).map fun _ => ()

/-- Judges the members of an object in order; `seen` are the fields met before. -/
def judgeMembers (fields : List Field) (seen : List String) :
    List (String × Draft) → Decoded Unit
  | [] => .ok ()
  | (name, value) :: rest =>
    match fields.find? fun f => f.name == name with
    | none => judgeMembers fields seen rest
    | some field =>
      if seen.contains name then .error (.duplicateField name)
      else do
        field.judge value
        judgeMembers fields (name :: seen) rest

def fieldValues (members : List (String × Draft)) : List Field → Decoded (List Draft)
  | [] => .ok []
  | field :: rest =>
    match (members.lookup field.name).or field.fallback with
    | none => .error (.missingField field.name)
    | some v => (fieldValues members rest).map (v :: ·)

/-- The values of the fields among the items of an array, and the items left over. -/
def fieldItems (short : Nat → Mismatch) (place : Nat) :
    List Field → List Draft → Decoded (List Draft × List Draft)
  | [], items => .ok ([], items)
  | field :: rest, [] =>
    match field.fallback with
    | none => .error (short place)
    | some v => (fieldItems short (place + 1) rest []).map fun (vs, left) => (v :: vs, left)
  | field :: rest, item :: items => do
    field.judge item
    (fieldItems short (place + 1) rest items).map fun (vs, left) => (item :: vs, left)

def elements (n : Nat) : String :=
  if n == 1 then "1 element" else s!"{n} elements"

def leftOver (how : Reading) (expected left : Nat) : Mismatch :=
  match how with
  | .direct => .malformed
  | .kept => .invalidLength (expected + left) (elements expected ++ " in sequence")

def itemRecord (how : Reading) (short : Nat → Mismatch) (fields : List Field)
    (items : List Draft) : Decoded (List Draft) := do
  let (values, left) ← fieldItems short 0 fields items
  if left.isEmpty then return values
  else .error (leftOver how fields.length left.length)

def record (how : Reading) (title : String) (fields : List Field) : Draft → Decoded (List Draft)
  | .object members => do
    let members ← meantMembers members
    judgeMembers fields [] members
    fieldValues members fields
  | .array items =>
    itemRecord how
      (fun n => .invalidLength n (title ++ " with " ++ elements fields.length)) fields items
  | v => .error (wrongType title v)

def sequence {α : Type} (item : Draft → Decoded α) : Draft → Decoded (List α)
  | .array items => items.mapM item
  | v => .error (wrongType "a sequence" v)

def pair {α β : Type} (first : Draft → Decoded α) (second : Draft → Decoded β) :
    Draft → Decoded (α × β)
  | .array [] => .error (.invalidLength 0 "a tuple of size 2")
  | .array [a] => do
    let _ ← first a
    .error (.invalidLength 1 "a tuple of size 2")
  | .array [a, b] => do return (← first a, ← second b)
  | .array (a :: b :: _) => do
    let _ ← first a
    let _ ← second b
    .error .malformed
  | v => .error (wrongType "a tuple of size 2" v)

/-- A variant whose name is the member `tag` and whose data is the member `content`. -/
structure Tagged (α : Type) where
  title : String
  tag : String
  content : String
  names : List String
  data : Nat → Reading → Draft → Decoded α
  bare : Nat → Decoded α

/-- Passes over members that are neither tag nor content. -/
def Tagged.relevant {α : Type} (t : Tagged α) (members : List (String × Draft)) :
    List (String × Draft) :=
  members.filter fun m => m.1 == t.tag || m.1 == t.content

/-- A third member of a tagged variant repeats one of the two before it. -/
def Tagged.finish {α : Type} (result : α) : List (String × Draft) → Decoded α
  | [] => .ok result
  | (name, _) :: _ => .error (.duplicateField name)

def Tagged.read {α : Type} (t : Tagged α) : Draft → Decoded α
  | .object members => do
    match t.relevant (← meantMembers members) with
    | [] => .error (.missingField t.tag)
    | (first, v) :: rest =>
      if first == t.tag then do
        let i ← unitVariant .direct t.names v
        match rest with
        | [] => t.bare i
        | (second, w) :: rest =>
          if second == t.tag then .error (.duplicateField t.tag)
          else do
            let result ← t.data i .direct w
            Tagged.finish result rest
      else
        match rest with
        | [] => .error (.missingField t.tag)
        | (second, w) :: rest =>
          if second == t.tag then do
            let _ ← meant v
            let i ← unitVariant .direct t.names w
            let result ← t.data i .kept v
            Tagged.finish result rest
          else .error (.duplicateField t.content)
  | .array [] => .error (.invalidLength 0 t.title)
  | .array (name :: rest) => do
    let i ← variantIndex t.names (← textNamed "variant identifier" name)
    match rest with
    | [] => .error (.invalidLength 1 t.title)
    | [v] => t.data i .direct v
    | v :: _ :: _ => do
      let _ ← t.data i .direct v
      .error .malformed
  | v => .error (wrongType t.title v)

/-- Content that a variant without data ignores if it is null. -/
def unitVariantContent (title : String) : Draft → Decoded Unit
  | .null => .ok ()
  | v => .error (wrongType ("unit variant " ++ title) v)

/-- Parts an object into the variant its member `tag` names and the other members. -/
def splitTag (tag : String) (names : List String) :
    Option Nat → List (String × Draft) → Decoded (Option Nat × List (String × Draft))
  | found, [] => .ok (found, [])
  | found, (name, value) :: rest =>
    if name == tag then
      if found.isSome then .error (.duplicateField tag)
      else do
        let i ← variantIndex names (← textNamed "variant identifier" value)
        splitTag tag names (some i) rest
    else (splitTag tag names found rest).map fun (i, others) => (i, (name, value) :: others)

/-- The variant that a value with an inner tag names, and the rest of the value. -/
def innerTag (title tag : String) (names : List String) (v : Draft) : Decoded (Nat × Draft) := do
  let _ ← meant v
  match v with
  | .object members =>
    match ← splitTag tag names none (← meantMembers members) with
    | (none, _) => .error (.missingField tag)
    | (some i, others) => return (i, .object (others.map fun (name, d) => (some name, d)))
  | .array [] => .error (.missingField tag)
  | .array (name :: rest) =>
    return (← variantIndex names (← textNamed "variant identifier" name), .array rest)
  | v => .error (wrongType title v)

/-- The value of a type in a text, or why it is none: no JSON, or JSON of another type. What a
reading passes over need not make sense, but without that a fault is that of the text. -/
def decode {α : Type} (read : Draft → Decoded α) (text : String) : Decoded α :=
  match readDraft maxDepth text.toList with
  | none => .error .malformed
  | some d =>
    match read d with
    | .ok value => .ok value
    | .error mismatch => .error (if d.makesSense then mismatch else .malformed)

end DaemonDialogue.Json
