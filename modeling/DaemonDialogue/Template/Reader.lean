import DaemonDialogue.Template.Piece

/-!
# Reading templates

Pieces become nodes from left to right. An open `if` keeps the nodes read before
it, so the innermost open one is at hand when `else` or `end` comes.
-/

namespace DaemonDialogue.Template

/-- An `if` whose `end` is still to come: where it opened, the nodes before it (in
reverse), and the nodes before its `else` if that is past. -/
structure OpenChoice where
  offset : Nat
  condition : String
  before : List Node
  yes : Option (List Node)
  deriving Repr

/-- The nodes read at the innermost level (in reverse) and the open choices around them. -/
structure Reading where
  current : List Node := []
  opened : List OpenChoice := []
  deriving Repr

/-- The argument between its quotes: `none` for an escape that is not known, a quote
that is not escaped, or a backslash at the end. -/
def unescape : List Char → Option (List Char)
  | [] => some []
  | '\\' :: 'n' :: rest => (unescape rest).map ('\n' :: ·)
  | '\\' :: 't' :: rest => (unescape rest).map ('\t' :: ·)
  | '\\' :: '"' :: rest => (unescape rest).map ('"' :: ·)
  | '\\' :: '\\' :: rest => (unescape rest).map ('\\' :: ·)
  | '\\' :: _ => none
  | '"' :: _ => none
  | c :: rest => (unescape rest).map (c :: ·)

/-- The text of exactly one quoted string. -/
def unquote : List Char → Option String
  | '"' :: rest =>
    match rest.reverse with
    | '"' :: inner => (unescape inner.reverse).map String.ofList
    | _ => none
  | _ => none

/-- The node of a field or an action, behind its dot. -/
def dotted (text : List Char) : Except Fault Node :=
  let name := text.takeWhile fun c => !isBlank c
  let rest := Blank.trimChars (text.dropWhile fun c => !isBlank c)
  if !isName name then .error (.invalidFieldName (String.ofList name))
  else if rest.isEmpty then .ok (.field (String.ofList name))
  else match unquote rest with
    | some argument => .ok (.action (String.ofList name) argument)
    | none => .error (.invalidArgument (String.ofList name) (String.ofList rest))

def placeholder : List Char → Except Fault Node
  | [] => .error .emptyTag
  | '.' :: rest => dotted rest
  | body =>
    if isName body then .ok (.function (String.ofList body))
    else .error (.invalidPlaceholder (String.ofList body))

inductive Tag
  | end_
  | else_
  | if_ (condition : List Char)
  | other (body : List Char)
  deriving DecidableEq, Repr

/-- Tells tags apart by their trimmed bodies. -/
def Tag.ofBody (body : List Char) : Tag :=
  match Blank.trimChars body with
  | ['e', 'n', 'd'] => .end_
  | ['e', 'l', 's', 'e'] => .else_
  | 'i' :: 'f' :: ' ' :: rest => .if_ (Blank.trimChars rest)
  | body => .other body

def Reading.tag (r : Reading) (offset : Nat) : Tag → Except Fault Reading
  | .end_ =>
    match r.opened with
    | [] => .error .endWithoutIf
    | o :: outer =>
      let node := match o.yes with
        | none => .choice o.condition r.current.reverse []
        | some yes => .choice o.condition yes r.current.reverse
      .ok ⟨node :: o.before, outer⟩
  | .else_ =>
    match r.opened with
    | [] => .error .elseWithoutIf
    | o :: outer =>
      if o.yes.isSome then .error .elseWithoutIf
      else .ok ⟨[], { o with yes := some r.current.reverse } :: outer⟩
  | .if_ condition =>
    if isName condition then
      .ok ⟨[], ⟨offset, String.ofList condition, r.current, none⟩ :: r.opened⟩
    else .error (.invalidCondition (String.ofList condition))
  | .other body => do
    let node ← placeholder body
    return { r with current := node :: r.current }

def Reading.pieces (r : Reading) : List Piece → Except Error Reading
  | [] => .ok r
  | .text content :: rest =>
    Reading.pieces { r with current := .text (String.ofList content) :: r.current } rest
  | .tag offset body :: rest =>
    match r.tag offset (Tag.ofBody body) with
    | .ok r => Reading.pieces r rest
    | .error fault => .error (.malformed offset fault)

/-- The nodes once all pieces are read: no choice may be open. -/
def Reading.finish (r : Reading) : Except Error (List Node) :=
  match r.opened with
  | [] => .ok r.current.reverse
  | o :: _ => .error (.malformed o.offset .ifWithoutEnd)

def readNodes (source : String) : Except Error (List Node) := do
  let (pieces, unclosed) := Template.pieces source
  let r ← Reading.pieces {} pieces
  match unclosed with
  | some offset => .error (.malformed offset .unterminated)
  | none => r.finish

def read (source : String) : Except Error Template := do
  return ⟨source, ← readNodes source⟩

end DaemonDialogue.Template
