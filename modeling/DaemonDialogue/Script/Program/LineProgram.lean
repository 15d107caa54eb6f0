import DaemonDialogue.Script.Program.Edit.Run
import DaemonDialogue.Script.Program.Grep

/-!
# The programs on lines

What the programs that read whole sources have in common, and which of them there are.
-/

namespace DaemonDialogue.Script.Program

/-- A program on lines: its options, how it complains about them, the sources that it reads or why it
cannot, what it writes for them, whether it may not need all of them and what it ends with then, and
whether it says which cannot be read. It has a status for options and one for sources that it cannot use. -/
structure LineProgram where
  grammar : Grammar
  complains : Text → Text → Text := misuse
  sources : Text → Parsed → Except Result (List Text) := fun _ p =>
    .ok (if p.operands.isEmpty then [['-']] else p.operands)
  write : Parsed → List Input → Result
  stops : Parsed → Bool := fun _ => false
  early : Parsed → List Input → Option Result := fun _ _ => none
  silent : Parsed → Bool := fun _ => false
  misuseStatus : Nat := 1
  failureStatus : Nat := 1

namespace LineProgram

def grep (kind : List (Char × Text)) : LineProgram where
  grammar := Grep.grammar
  complains := fun name fault => complaint name fault ++ Grep.usage name
  sources := fun name p => Grep.sources name { p with options := kind ++ p.options }
  write := fun p => Grep.write { p with options := kind ++ p.options }
  stops := Grep.stops
  early := fun p => Grep.early { p with options := kind ++ p.options }
  silent := fun p => p.has 's'
  misuseStatus := 2
  failureStatus := 2

def sed : LineProgram where
  grammar := Edit.grammar
  complains := fun name fault => complaint name fault ++ Edit.usage name
  sources := Edit.sources
  write := Edit.write
  stops := Edit.stops
  early := Edit.early
  failureStatus := 2

def find? (name : String) : Option LineProgram :=
  match name with
  | "tail" => some
    { grammar := Tail.grammar, write := Tail.write
      sources := fun name p => (Tail.sources p).mapError fun e => { complaints := complaint name e, status := 1 } }
  | "head" => some { grammar := Head.grammar, write := Head.write }
  | "wc" => some { grammar := Count.grammar, write := Count.write }
  | "sort" => some { grammar := Sorting.grammar, write := Sorting.write, misuseStatus := 2 }
  | "uniq" => some { grammar := Unique.grammar, write := Unique.write }
  | "cut" => some
    { grammar := Columns.grammar, write := Columns.write
      sources := fun name p => (Columns.sources p).mapError (Result.misused name · 1) }
  | "tr" => some
    { grammar := Translate.grammar, write := Translate.write
      sources := fun name p => (Translate.sources p).mapError (Result.misused name · 1) }
  | "rev" => some
    { grammar := {}
      write := fun _ inputs =>
        { output := joined (inputs.flatMap fun i => (linesOf i.text).map List.reverse) } }
  | "tac" => some
    { grammar := {}
      write := fun _ inputs =>
        { output := inputs.flatMap fun i => (linesKept (i.text.length + 1) i.text).reverse.flatten } }
  | "grep" => some (grep [])
  | "egrep" => some (grep [('E', [])])
  | "fgrep" => some (grep [('F', [])])
  | "sed" => some sed
  | _ => none

end LineProgram
end DaemonDialogue.Script.Program
