import DaemonDialogue.Node.Info
import DaemonDialogue.Stream.Line
import DaemonDialogue.Text.Blank

/-!
# Consoles

A console knows a fixed set of expressions about the identity of a node. It reads
lines, answers each that is not blank, and ends at `exit` or where the lines end.
-/

namespace DaemonDialogue.Node.Console

/-- An expression without blanks and without semicolons at its end. -/
def bare (expression : String) : String :=
  String.ofList (Blank.dropEndWhile (· == ';') (expression.toList.filter fun c => !isBlank c))

/-- The value of an expression without blanks, if the console knows it. -/
def valueOf? (node : Info) (expression : String) : Option Json :=
  match expression with
  | "admin.nodeInfo.protocols.eth.network" => some (.integer node.networkId)
  | "net.version" => some (.string (toString node.networkId))
  | "admin.nodeInfo.protocols.eth.config.chainId" | "eth.chainId" => some (.integer node.chainId)
  | "admin.nodeInfo.name" => some (.string node.name)
  | "admin.datadir" => some (.string node.datadir)
  | "eth.getBlock(0,false).hash" | "eth.getBlock(0).hash" => some (.string node.genesisHash)
  | "eth.coinbase" => some (.string node.etherbase)
  | "eth.blockNumber" => some (.integer 0)
  | "" => some .null
  | _ => none

/-- What the console says about an expression that it does not know. -/
def unknown (expression : String) : String :=
  s!"ReferenceError: {trim expression} is not defined"

def evaluate (node : Info) (expression : String) : Except String Json :=
  match valueOf? node (bare expression) with
  | some value => .ok value
  | none => .error (unknown expression)

def display : Json → String
  | .null => "undefined"
  | value => value.compact

def show_ : Except String Json → String
  | .ok value => display value
  | .error message => message

def timeFormat : String := "%a %b %d %Y %H:%M:%S GMT%z (%Z)"

def epochTime : String := "Thu Jan 01 1970 00:00:00 GMT+0000 (UTC)"

/-- The banner of a session; the directory is for those who can see the files of the node. -/
def welcome (node : Info) (modules : String) (showDatadir : Bool) : String :=
  "\nWelcome to the Testnode console!\n\n" ++ s!"instance: {node.name}\n" ++
    s!"coinbase: {node.etherbase}\n" ++ s!"at block: 0 ({epochTime})\n" ++
    (if showDatadir then s!" datadir: {node.datadir}\n" else "") ++
    s!" modules: {modules}\n\nTo exit, press ctrl-d\n"

def prompt : String := "> "

/-- How a session ends: by itself, for want of input that may still come, at input that
is no text, or because nobody answers any more. -/
inductive Ending (ε : Type)
  | finished
  | waiting
  | unreadable (fault : Utf8.Fault)
  | failed (error : ε)
  deriving Repr

/-- How a session has gone: its output, what is left of what answers, and how it ended. -/
structure Transcript (σ ε : Type) where
  output : String
  state : σ
  ending : Ending ε

variable {σ ε : Type}

/-- What answers: the state may change with every expression, and an answer may fail to come. -/
abbrev Evaluator (σ ε : Type) := String → σ → Except ε (Except String Json) × σ

/-- A session on the lines that are left, behind the output so far. -/
def converse (evaluator : Evaluator σ ε) (closed : Bool) (output : String) (s : σ) :
    List (List UInt8) → Transcript σ ε
  | [] =>
    if closed then ⟨output ++ prompt ++ "\n", s, .finished⟩ else ⟨output ++ prompt, s, .waiting⟩
  | raw :: rest =>
    match Line.text raw with
    | .error fault => ⟨output ++ prompt, s, .unreadable fault⟩
    | .ok line =>
      let line := trim line
      if line = "exit" then ⟨output ++ prompt ++ "\n", s, .finished⟩
      else if line.isEmpty then converse evaluator closed (output ++ prompt) s rest
      else
        match evaluator line s with
        | (.error e, s) => ⟨output ++ prompt, s, .failed e⟩
        | (.ok answer, s) =>
          converse evaluator closed (output ++ prompt ++ show_ answer ++ "\n") s rest

/-- What can be read: the bytes so far, and whether more can come. -/
structure Input where
  bytes : List UInt8 := []
  closed : Bool := true
  deriving Repr, Inhabited

def Input.lines (input : Input) : List (List UInt8) :=
  if input.closed then Line.all input.bytes else (Line.split input.bytes).1

def run (evaluator : Evaluator σ ε) (input : Input) (s : σ) : Transcript σ ε :=
  converse evaluator input.closed "" s input.lines

def ofNode (node : Info) : Evaluator Unit Empty := fun expression s =>
  (.ok (evaluate node expression), s)

end DaemonDialogue.Node.Console
