import DaemonDialogue.Script.Syntax

/-!
# Tokens

What a script is made of: words, redirections, operators, and words that are keywords
where a command may begin.
-/

namespace DaemonDialogue.Script

inductive Keyword
  | not
  | case_
  | do_
  | done
  | elif
  | else_
  | esac
  | fi
  | for_
  | if_
  | in_
  | then_
  | until_
  | while_
  | begin_
  | end_
  deriving DecidableEq, Repr, Inhabited

def Keyword.table : List (Keyword × String) :=
  [(.not, "!"), (.case_, "case"), (.do_, "do"), (.done, "done"), (.elif, "elif"), (.else_, "else"),
    (.esac, "esac"), (.fi, "fi"), (.for_, "for"), (.if_, "if"), (.in_, "in"), (.then_, "then"),
    (.until_, "until"), (.while_, "while"), (.begin_, "\x7b"), (.end_, "\x7d")]

def Keyword.ofText? (t : Text) : Option Keyword :=
  (table.find? fun e => e.2.toList == t).map (·.1)

def Keyword.text (k : Keyword) : String :=
  ((table.find? fun e => e.1 == k).map (·.2)).getD ""

/-- A token; what a word or a redirection is made of is kept beside it. -/
inductive Token
  | endOfFile
  | newline
  | semicolon
  | background
  | both
  | either
  | pipe
  | open_
  | close
  | endOfCase
  | redirection
  | word
  | keyword (k : Keyword)
  deriving DecidableEq, Repr, Inhabited

namespace Token

def name : Token → String
  | endOfFile => "end of file"
  | newline => "newline"
  | semicolon => "\";\""
  | background => "\"&\""
  | both => "\"&&\""
  | either => "\"||\""
  | pipe => "\"|\""
  | open_ => "\"(\""
  | close => "\")\""
  | endOfCase => "\";;\""
  | redirection => "redirection"
  | word => "word"
  | keyword k => "\"" ++ k.text ++ "\""

/-- Can nothing but the end of a list of commands be here? -/
def endsList : Token → Bool
  | endOfFile | close | endOfCase => true
  | keyword k => [.do_, .done, .elif, .else_, .esac, .fi, .then_, .end_].contains k
  | _ => false

end Token

/-- What is wrong with the form of a script. -/
inductive SyntaxFault
  | unexpected (found : Token)
  | expected (found wanted : Token)
  | unterminatedQuotes
  | missingBrace
  | missingParentheses
  | unterminatedBackquotes
  | badVariable
  | badFunctionName
  | badDescriptor
  deriving DecidableEq, Repr, Inhabited

def SyntaxFault.message (f : SyntaxFault) : String :=
  "Syntax error: " ++ match f with
    | .unexpected found => found.name ++ " unexpected"
    | .expected found wanted => found.name ++ " unexpected (expecting " ++ wanted.name ++ ")"
    | .unterminatedQuotes => "Unterminated quoted string"
    | .missingBrace => "Missing '\x7d'"
    | .missingParentheses => "Missing '))'"
    | .unterminatedBackquotes => "EOF in backquote substitution"
    | .badVariable => "Bad for loop variable"
    | .badFunctionName => "Bad function name"
    | .badDescriptor => "Bad fd number"

end DaemonDialogue.Script
