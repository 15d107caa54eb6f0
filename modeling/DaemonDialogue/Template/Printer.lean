import DaemonDialogue.Template.Basic

/-!
# Writing templates

The source of given nodes. In arguments only quotes and backslashes are escaped,
and an empty `else` part is left out.
-/

namespace DaemonDialogue.Template

def tagChars (body : List Char) : List Char :=
  '\x7b' :: '\x7b' :: body ++ ['\x7d', '\x7d']

def escaped (c : Char) : List Char :=
  if c == '"' || c == '\\' then ['\\', c] else [c]

def argumentChars (argument : List Char) : List Char :=
  '"' :: argument.flatMap escaped ++ ['"']

mutual

def Node.chars : Node → List Char
  | .text content => content.toList
  | .function name => tagChars name.toList
  | .field name => tagChars ('.' :: name.toList)
  | .action name argument =>
    tagChars ('.' :: name.toList ++ ' ' :: argumentChars argument.toList)
  | .choice condition yes no =>
    tagChars ('i' :: 'f' :: ' ' :: condition.toList) ++ Node.charsOf yes ++
      (if no.isEmpty then [] else tagChars ['e', 'l', 's', 'e'] ++ Node.charsOf no) ++
      tagChars ['e', 'n', 'd']

def Node.charsOf : List Node → List Char
  | [] => []
  | node :: rest => node.chars ++ Node.charsOf rest

end

def print (nodes : List Node) : String :=
  String.ofList (Node.charsOf nodes)

end DaemonDialogue.Template
