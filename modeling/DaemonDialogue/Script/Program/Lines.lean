import DaemonDialogue.Script.Glob
import DaemonDialogue.Script.Printing.Echo
import DaemonDialogue.Script.Program.Options

/-!
# Programs on lines

Programs that read all of their sources before they write: ends of files, counts, sorted
lines, columns and other characters.
-/

namespace DaemonDialogue.Script.Program

/-- What was read from a source; `regular` if it is a file. -/
structure Input where
  name : Text
  regular : Bool
  text : Text
  deriving Repr, Inhabited

def linesOf (t : Text) : List Text :=
  let ls := Text.fields '\n' t
  if ls.getLast? == some [] then ls.dropLast else ls

def joined (ls : List Text) : Text := ls.flatMap (· ++ ['\n'])

/-- The lines of a text with their ends, of which the last may lack one. -/
def linesKept : Nat → Text → List Text
  | 0, _ => []
  | _, [] => []
  | fuel + 1, t =>
    match t.dropWhile (· != '\n') with
    | [] => [t]
    | feed :: rest => (t.takeWhile (· != '\n') ++ [feed]) :: linesKept fuel rest

def headerName (name : Text) : Text := if name == ['-'] then "standard input".toList else name

def header (isFirst : Bool) (name : Text) : Text :=
  (if isFirst then [] else ['\n']) ++ "==> ".toList ++ headerName name ++ " <==\n".toList

def count? (t : Text) : Option Nat :=
  let digits := t.takeWhile Ascii.isDigit
  let unit : Option Nat := match String.ofList (t.drop digits.length) with
    | "" => some 1
    | "b" => some 512
    | "k" | "K" | "KiB" => some 1024
    | "kB" | "KB" => some 1000
    | "M" | "MiB" => some 1048576
    | "MB" => some 1000000
    | _ => none
  if digits.isEmpty then none else unit.map (Ascii.digitsValue digits * ·)

/-- The arguments with a number behind a dash written as the option that it stands for. -/
def modern (arguments : List Text) : List Text :=
  match arguments with
  | ('-' :: c :: more) :: rest =>
    if Ascii.isDigit c then
      let digits := (c :: more).takeWhile Ascii.isDigit
      let letters := (c :: more).drop digits.length
      (if letters.contains 'c' then ['-', 'c'] else ['-', 'n']) :: digits :: rest
    else arguments
  | _ => arguments

/-- The arguments of a program that writes ends, with a number behind a plus sign written as an option,
too. -/
def modernEnd (arguments : List Text) : List Text :=
  match arguments with
  | ('+' :: digits) :: rest =>
    if !digits.isEmpty && digits.all Ascii.isDigit then ['-', 'n'] :: ('+' :: digits) :: rest
    else arguments
  | arguments => modern arguments

namespace Tail

def grammar : Grammar where
  letters := Grammar.ofLetters "fFqvz" "ncs"
  names := [("bytes", 'c'), ("follow", 'f'), ("lines", 'n'), ("quiet", 'q'), ("silent", 'q'),
    ("verbose", 'v')]

/-- The end of a text: the last of its lines or bytes, or all from some of them on. -/
def cut (p : Parsed) (t : Text) : Text :=
  let bytes := p.last? ['n', 'c'] == some 'c'
  let argument := ((p.argument? 'c').filter fun _ => bytes).or (p.argument? 'n') |>.getD ['1', '0']
  let digits := match argument with
    | '+' :: digits | '-' :: digits => digits
    | digits => digits
  let n := (count? digits).getD 10
  let units := if bytes then t.map fun c => [c] else linesKept (t.length + 1) t
  if argument.head? == some '+' then (units.drop (n - 1)).flatten
  else (units.drop (units.length - n)).flatten

def sources (p : Parsed) : Except Text (List Text) :=
  let bad (c : Char) (what : String) : Option Text :=
    (p.argument? c).bind fun t =>
      let digits := match t with
        | '+' :: digits | '-' :: digits => digits
        | digits => digits
      if (count? digits).isSome then none
      else some ("invalid number of ".toList ++ what.toList ++ ": ".toList ++ Grammar.quote t)
  match bad 'n' "lines", bad 'c' "bytes" with
  | some e, _ | none, some e => .error e
  | none, none => .ok (if p.operands.isEmpty then [['-']] else p.operands)

def write (p : Parsed) (inputs : List Input) : Result :=
  let headers := (1 < p.operands.length && !p.has 'q') || p.has 'v'
  let parts := inputs.zipIdx.map fun (input, i) =>
    (if headers then header (i == 0) input.name else []) ++ cut p input.text
  { output := parts.flatten }

end Tail

namespace Head

def grammar : Grammar where
  letters := Grammar.ofLetters "qvz" "nc"
  names := [("bytes", 'c'), ("lines", 'n'), ("quiet", 'q'), ("silent", 'q'), ("verbose", 'v')]

/-- All of a text but the last of its lines or bytes. -/
def cut (p : Parsed) (t : Text) : Text :=
  let bytes := p.last? ['n', 'c'] == some 'c'
  let argument := (if bytes then p.argument? 'c' else p.argument? 'n').getD []
  let n := (count? (argument.drop 1)).getD 0
  let units := if bytes then t.map fun c => [c] else linesKept (t.length + 1) t
  (units.take (units.length - n)).flatten

def write (p : Parsed) (inputs : List Input) : Result :=
  let headers := (1 < p.operands.length && !p.has 'q') || p.has 'v'
  let parts := inputs.zipIdx.map fun (input, i) =>
    (if headers then header (i == 0) input.name else []) ++ cut p input.text
  { output := parts.flatten }

end Head

namespace Count

def grammar : Grammar where
  letters := Grammar.ofLetters "clLmw" ""
  names := [("bytes", 'c'), ("chars", 'm'), ("lines", 'l'), ("max-line-length", 'L'), ("words", 'w')]

def columns (line : Text) : Nat :=
  line.foldl (fun n c => if c == '\t' then n + (8 - n % 8) else if Glob.isPrint c then n + 1 else n) 0

def counts (p : Parsed) (t : Text) : List Nat :=
  let all := !(p.has 'c' || p.has 'l' || p.has 'L' || p.has 'm' || p.has 'w')
  let words := (t.foldl (fun (n, inside) c =>
    if Text.isSpace c then (n, false)
    else if !Glob.isPrint c then (n, inside)
    else (if inside then n else n + 1, true)) (0, false)).1
  let longest := ((linesOf t).map columns).foldl max 0
  (if all || p.has 'l' then [t.count '\n'] else []) ++ (if all || p.has 'w' then [words] else []) ++
    (if p.has 'm' then [t.length] else []) ++ (if all || p.has 'c' then [t.length] else []) ++
    (if p.has 'L' then [longest] else [])

def right (width n : Nat) : Text :=
  let digits := Text.ofNat n
  List.replicate (width - digits.length) ' ' ++ digits

def line (width : Nat) (ns : List Nat) (name : Text) : Text :=
  [' '].intercalate (ns.map (right width)) ++ (if name.isEmpty then [] else ' ' :: name) ++ ['\n']

def write (p : Parsed) (inputs : List Input) : Result :=
  let rows := inputs.map fun i => (counts p i.text, i.name)
  let columns := (rows.head?.map fun r => r.1.length).getD 1
  let size := Text.total ((inputs.filter (·.regular)).map fun i => i.text.length)
  let digits := (Text.ofNat size).length
  let width :=
    if inputs.length ≤ 1 && columns == 1 then 1
    else if inputs.all (·.regular) then digits else max 7 digits
  let shown := rows.map fun r => line width r.1 (if p.operands.isEmpty then [] else r.2)
  let sums := rows.foldl (fun sums r => (List.range columns).map fun i =>
    sums.getD i 0 + r.1.getD i 0) (List.replicate columns 0)
  { output := shown.flatten ++ if 1 < p.operands.length then line width sums "total".toList else [] }

end Count

namespace Sorting

def grammar : Grammar where
  letters := Grammar.ofLetters "bcdfgnrsuz" "kto"
  names := [("ignore-leading-blanks", 'b'), ("ignore-case", 'f'), ("numeric-sort", 'n'),
    ("reverse", 'r'), ("unique", 'u'), ("key", 'k'), ("field-separator", 't'), ("stable", 's')]

/-- The value of the number at the beginning of a text: below zero or not, and its digits before
and behind the point. -/
def numeric (t : Text) : Int :=
  let t := t.dropWhile fun c => c == ' ' || c == '\t'
  let (negative, digits) := match t with
    | '-' :: rest => (true, rest)
    | t => (false, t)
  let whole := digits.takeWhile Ascii.isDigit
  let part := match digits.drop whole.length with
    | '.' :: rest => rest.takeWhile Ascii.isDigit
    | _ => []
  let n : Int := Ascii.digitsValue (whole ++ (part ++ List.replicate 9 '0').take 9)
  if negative then -n else n

/-- The fields of a line: what is between separators, or words with the blanks before them. -/
def fieldsOf (separator : Option Char) (t : Text) : List Text :=
  match separator with
  | some c => Text.fields c t
  | none =>
    let isBlank (c : Char) : Bool := c == ' ' || c == '\t'
    let marks := t.foldl (fun (done, current, inside) c =>
      if isBlank c && inside then (current.reverse :: done, [c], false)
      else (done, c :: current, !isBlank c)) (([], [], false) : List Text × Text × Bool)
    (marks.2.1.reverse :: marks.1).reverse

/-- A key: from which field to which, and letters that ask how it is compared. -/
structure Key where
  first : Nat
  last : Option Nat
  letters : Text

def key? (t : Text) : Option Key :=
  let (start, stop) := match Cut.atFirst? ',' t with
    | some (a, b) => (a, some b)
    | none => (t, none)
  let digits (t : Text) : Text := t.takeWhile Ascii.isDigit
  let letters (t : Text) : Text := t.filter Ascii.isLetter
  if (digits start).isEmpty then none
  else
    some ⟨Ascii.digitsValue (digits start), stop.map fun s => Ascii.digitsValue (digits s),
      letters start ++ (stop.map letters).getD []⟩

def ofKey (separator : Option Char) (k : Key) (line : Text) : Text :=
  let fields := fieldsOf separator line
  let wanted := match k.last with
    | some n => (fields.take n).drop (k.first - 1)
    | none => fields.drop (k.first - 1)
  match separator with
  | some c => [c].intercalate wanted
  | none => wanted.flatten

def compareBy (letters : Text) (a b : Text) : Ordering :=
  let fold (t : Text) : Text :=
    if letters.contains 'f' then t.map fun c => if Ascii.isLetter c then Ascii.lower c else c else t
  let trim (t : Text) : Text :=
    if letters.contains 'b' then t.dropWhile (fun c => c == ' ' || c == '\t') else t
  if letters.contains 'n' || letters.contains 'g' then compare (numeric a) (numeric b)
  else
    let (a, b) := (fold (trim a), fold (trim b))
    if a < b then .lt else if b < a then .gt else .eq

def compareLines (p : Parsed) (a b : Text) : Ordering :=
  let letters := (p.options.map (·.1)).filter fun c => "bfngr".toList.contains c
  let separator := (p.argument? 't').bind List.head?
  let keys := (p.options.filter fun o => o.1 == 'k').filterMap fun o => key? o.2
  let turned (letters : Text) (o : Ordering) : Ordering := if letters.contains 'r' then o.swap else o
  match keys with
  | [] => turned letters (compareBy letters a b)
  | keys =>
    keys.foldl (fun o k =>
      match o with
      | .eq =>
        let letters := if k.letters.isEmpty then letters else k.letters
        turned letters (compareBy letters (ofKey separator k a) (ofKey separator k b))
      | o => o) .eq

def write (p : Parsed) (inputs : List Input) : Result :=
  let lines := inputs.flatMap fun i => linesOf i.text
  let plain (a b : Text) : Bool := if p.has 'r' then Text.precedes b a else Text.precedes a b
  let before (a b : Text) : Bool :=
    match compareLines p a b with
    | .lt => true
    | .gt => false
    | .eq => p.has 'u' || p.has 's' || plain a b
  let sorted := lines.mergeSort before
  let single := if p.has 'u' then
      (sorted.foldl (fun (kept : List Text) l =>
        match kept with
        | k :: _ => if compareLines p k l == .eq then kept else l :: kept
        | [] => [l]) []).reverse
    else sorted
  { output := joined single }

end Sorting

namespace Unique

def grammar : Grammar where
  letters := Grammar.ofLetters "cdiu" ""
  names := [("count", 'c'), ("repeated", 'd'), ("ignore-case", 'i'), ("unique", 'u')]

def write (p : Parsed) (inputs : List Input) : Result :=
  let lines := inputs.flatMap fun i => linesOf i.text
  let fold (t : Text) : Text := if p.has 'i' then t.map Ascii.lower else t
  let groups := (lines.foldl (fun (groups : List (Text × Nat)) l =>
    match groups with
    | (k, n) :: rest => if fold k == fold l then (k, n + 1) :: rest else (l, 1) :: groups
    | [] => [(l, 1)]) []).reverse
  let wanted := groups.filter fun g =>
    (!p.has 'd' || 1 < g.2) && (!p.has 'u' || g.2 == 1)
  { output := joined (wanted.map fun g =>
      if p.has 'c' then Count.right 7 g.2 ++ ' ' :: g.1 else g.1) }

end Unique

namespace Columns

def grammar : Grammar where
  letters := Grammar.ofLetters "sn" "bcdf"
  names := [("bytes", 'b'), ("characters", 'c'), ("delimiter", 'd'), ("fields", 'f'),
    ("only-delimited", 's')]

/-- The first and last place of each range in a list. -/
def ranges? (t : Text) : Option (List (Nat × Option Nat)) :=
  (Text.fields ',' t).mapM fun r =>
    match Cut.atFirst? '-' r with
    | none => if !r.isEmpty && r.all Ascii.isDigit && 0 < Ascii.digitsValue r then
        some (Ascii.digitsValue r, some (Ascii.digitsValue r)) else none
    | some (a, b) =>
      if (a ++ b).isEmpty || !(a ++ b).all Ascii.isDigit then none
      else some (if a.isEmpty then 1 else Ascii.digitsValue a,
        if b.isEmpty then none else some (Ascii.digitsValue b))

def isWanted (ranges : List (Nat × Option Nat)) (i : Nat) : Bool :=
  ranges.any fun r => r.1 ≤ i && r.2.all (i ≤ ·)

def pick (ranges : List (Nat × Option Nat)) (ts : List Text) : List Text :=
  (ts.zipIdx.filter fun e => isWanted ranges (e.2 + 1)).map (·.1)

def sources (p : Parsed) : Except Text (List Text) :=
  match (p.argument? 'f').or ((p.argument? 'c').or (p.argument? 'b')) with
  | none => .error "you must specify a list of bytes, characters, or fields".toList
  | some list =>
    if (p.argument? 'd').any fun d => d.length != 1 then
      .error "the delimiter must be a single character".toList
    else if (ranges? list).isNone then
      .error ("invalid field value ".toList ++ Grammar.quote list)
    else .ok (if p.operands.isEmpty then [['-']] else p.operands)

def write (p : Parsed) (inputs : List Input) : Result :=
  let separator := ((p.argument? 'd').bind List.head?).getD '\t'
  let lines := inputs.flatMap fun i => linesOf i.text
  let cut (l : Text) : List Text :=
    match p.argument? 'f' with
    | some list =>
      if l.contains separator then
        [[separator].intercalate (pick ((ranges? list).getD []) (Text.fields separator l))]
      else if p.has 's' then [] else [l]
    | none =>
      let list := ((p.argument? 'c').or (p.argument? 'b')).getD []
      [(pick ((ranges? list).getD []) (l.map fun c => [c])).flatten]
  { output := joined (lines.flatMap cut) }

end Columns

namespace Translate

def grammar : Grammar where
  letters := Grammar.ofLetters "cCdst" ""
  names := [("complement", 'c'), ("delete", 'd'), ("squeeze-repeats", 's'), ("truncate-set1", 't')]
  stopsAtOperand := true

def between (a b : Char) : Text :=
  (List.range (b.toNat + 1 - a.toNat)).map fun i => Char.ofNat (a.toNat + i)

def everything : Text := (List.range 256).map Char.ofNat

/-- The characters of a set; `fuel` bounds its length. -/
def setOf : Nat → Text → Text
  | 0, _ => []
  | _, [] => []
  | fuel + 1, '[' :: ':' :: rest =>
    match Glob.class? (':' :: rest) with
    | some (test, rest) => everything.filter test ++ setOf fuel rest
    | none => '[' :: setOf fuel (':' :: rest)
  | fuel + 1, t =>
    let single (t : Text) : Char × Text :=
      match t with
      | '\\' :: rest => Printing.escape rest
      | c :: rest => (c, rest)
      | [] => ('\x00', [])
    let (c, rest) := single t
    match rest with
    | '-' :: d :: more =>
      let (e, more) := single (d :: more)
      between c e ++ setOf fuel more
    | rest => c :: setOf fuel rest

def sources (p : Parsed) : Except Text (List Text) :=
  let needsTwo := !p.has 'd' && !p.has 's'
  match p.operands with
  | [] => .error "missing operand".toList
  | [a] =>
    if needsTwo then
      .error ("missing operand after ".toList ++ Grammar.quote a ++
        "\nTwo strings must be given when translating.".toList)
    else .ok [['-']]
  | [_, b] =>
    if p.has 'd' && !p.has 's' then
      .error ("extra operand ".toList ++ Grammar.quote b ++
        "\nOnly one string may be given when deleting without squeezing repeats.".toList)
    else .ok [['-']]
  | _ :: _ :: c :: _ => .error ("extra operand ".toList ++ Grammar.quote c)

/-- A text in which no character of a set stands twice in a row. -/
def squeeze (set : Text) (t : Text) : Text :=
  (t.foldl (fun (out : Text) c =>
    if out.head? == some c && set.contains c then out else c :: out) []).reverse

def write (p : Parsed) (inputs : List Input) : Result :=
  let t := inputs.flatMap fun i => i.text
  let set (s : Text) : Text := setOf (s.length + 1) s
  let first := set (p.operands.headD [])
  let first := if p.has 'c' || p.has 'C' then everything.filter fun c => !first.contains c else first
  let second := (p.operands[1]?).map set
  let output :=
    if p.has 'd' then
      let t := t.filter fun c => !first.contains c
      match p.has 's', second with
      | true, some s => squeeze s t
      | _, _ => t
    else
      match second with
      | some s =>
        let last := s.getLast?
        let pairs := first.zipIdx.filterMap fun (c, i) =>
          match s[i]? with
          | some d => some (c, d)
          | none => if p.has 't' then none else last.map fun d => (c, d)
        let changed := pairs.reverse
        let t := t.map fun c => (changed.lookup c).getD c
        if p.has 's' then squeeze s t else t
      | none => squeeze first t
  { output }

end Translate

end DaemonDialogue.Script.Program
