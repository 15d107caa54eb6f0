import DaemonDialogue.Text.Blank
import DaemonDialogue.Text.Ascii
import DaemonDialogue.Text.Quoted

/-!
# Templates of expected output

A template is text with tags between double braces:

* `name` stands for the value of a registered function;
* `.Name` for a field of what the template is rendered for;
* `.Name "argument"` for an action on it, and what the action yields;
* `if name`, `else` and `end` enclose what is rendered or not, as a function says.
-/

namespace DaemonDialogue

inductive Template.Node
  | text (content : String)
  | function (name : String)
  | field (name : String)
  | action (name argument : String)
  | choice (condition : String) (yes no : List Node)
  deriving Repr, Inhabited

/-- A template and the text it was read from. -/
structure Template where
  source : String
  nodes : List Template.Node
  deriving Repr, Inhabited

namespace Template

inductive Fault
  | unterminated
  | emptyTag
  | endWithoutIf
  | elseWithoutIf
  | ifWithoutEnd
  | invalidCondition (text : String)
  | invalidPlaceholder (text : String)
  | invalidFieldName (text : String)
  | invalidArgument (name text : String)
  deriving DecidableEq, Repr

def inBraces (word : String) : String :=
  "\x7b\x7b" ++ word ++ "\x7d\x7d"

def Fault.message : Fault → String
  | .unterminated => "unterminated placeholder"
  | .emptyTag => "empty placeholder"
  | .endWithoutIf => inBraces "end" ++ " without " ++ inBraces "if"
  | .elseWithoutIf => inBraces "else" ++ " without " ++ inBraces "if"
  | .ifWithoutEnd => inBraces "if" ++ " without " ++ inBraces "end"
  | .invalidCondition text => "invalid condition " ++ quoted text
  | .invalidPlaceholder text => "invalid placeholder " ++ quoted text
  | .invalidFieldName text => "invalid field name " ++ quoted text
  | .invalidArgument name text =>
    "expected one quoted argument for ." ++ name ++ ", got " ++ text

/-- Why a template cannot be read or rendered. -/
inductive Error
  | malformed (offset : Nat) (fault : Fault)
  | unresolved (name : String)
  | unknownField (name : String)
  | unknownAction (name : String)
  | failedAction (name message : String)
  deriving DecidableEq, Repr

def Error.message : Error → String
  | .malformed offset fault => s!"template syntax error at byte {offset}: {fault.message}"
  | .unresolved name => "unresolved placeholder " ++ inBraces name
  | .unknownField name => s!"unknown field .{name}"
  | .unknownAction name => s!"unknown action .{name}"
  | .failedAction name message => s!"action .{name} failed: {message}"

def isNameStart (c : Char) : Bool := Ascii.isLetter c || c == '_'

def isNamePart (c : Char) : Bool := Ascii.isAlphanumeric c || c == '_'

/-- A letter or underscore, then letters, digits and underscores. -/
def isName : List Char → Bool
  | [] => false
  | c :: rest => isNameStart c && rest.all isNamePart

mutual

/-- The functions a part of a template depends on, in the order of the text. -/
def Node.functions : Node → List String
  | .function name => [name]
  | .choice condition yes no =>
    condition :: (Node.functionsOf yes ++ Node.functionsOf no)
  | .text _ => []
  | .field _ => []
  | .action _ _ => []

def Node.functionsOf : List Node → List String
  | [] => []
  | node :: rest => node.functions ++ Node.functionsOf rest

end

/-- Puts a name at its place among sorted ones, unless it is there. -/
def insertName (name : String) : List String → List String
  | [] => [name]
  | other :: rest =>
    if name == other then other :: rest
    else if name < other then name :: other :: rest
    else other :: insertName name rest

/-- The functions a template depends on, sorted and each once. -/
def placeholders (t : Template) : List String :=
  (Node.functionsOf t.nodes).foldl (fun names name => insertName name names) []

end Template
end DaemonDialogue
