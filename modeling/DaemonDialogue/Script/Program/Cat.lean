import DaemonDialogue.Script.Process
import DaemonDialogue.Script.Program.Options

/-!
# Showing lines

Bytes pass as they are, or with numbers before lines and with signs for what is not seen.
-/

namespace DaemonDialogue.Script.Program.Cat

def grammar : Grammar where
  letters := Grammar.ofLetters "AbeEnstTuv" ""
  names := [("number-nonblank", 'b'), ("number", 'n'), ("squeeze-blank", 's'),
    ("show-nonprinting", 'v'), ("show-ends", 'E'), ("show-tabs", 'T'), ("show-all", 'A')]

/-- How the options ask lines to be shown. -/
def display (p : Parsed) : Chore.Display where
  numbers := p.has 'n' || p.has 'b'
  numbersFilled := p.has 'b'
  squeezes := p.has 's'
  showsEnds := p.has 'E' || p.has 'e' || p.has 'A'
  showsTabs := p.has 'T' || p.has 't' || p.has 'A'
  showsOthers := p.has 'v' || p.has 'e' || p.has 't' || p.has 'A'

def lineNumber (n : Nat) : Text :=
  let digits := Text.ofNat n
  List.replicate (6 - digits.length) ' ' ++ digits ++ ['\t']

def lowSign (d : Chore.Display) (c : Char) : Text :=
  if c == '\t' && !d.showsTabs then [c]
  else if c.toNat < 32 then ['^', Char.ofNat (c.toNat + 64)]
  else if c.toNat == 127 then ['^', '?']
  else [c]

def sign (d : Chore.Display) (c : Char) : Text :=
  if !d.showsOthers then if c == '\t' && d.showsTabs then ['^', 'I'] else [c]
  else if c.toNat < 128 then lowSign d c
  else
    let low := Char.ofNat (c.toNat - 128)
    'M' :: '-' :: lowSign { d with showsTabs := true } low

/-- One more character: what is written for it (the other way around, before what was written), and
what has been shown then. -/
def step (d : Chore.Display) : Text × Chore.Shown → Char → Text × Chore.Shown
  | (out, s), '\n' =>
    let ends := min 2 (s.ends + 1)
    if ends == 2 && d.squeezes then (out, { s with ends })
    else
      let counts := 0 < ends && d.numbers && !d.numbersFilled
      let line := if counts then s.line + 1 else s.line
      let number := if counts then lineNumber line else []
      let returned := if !s.owesReturn then [] else if d.showsEnds then ['^', 'M'] else ['\r']
      let shown := number ++ returned ++ (if d.showsEnds then ['$', '\n'] else ['\n'])
      (shown.reverse ++ out, { line, ends })
  | (out, s), c =>
    let counts := 0 ≤ s.ends && d.numbers
    let line := if counts then s.line + 1 else s.line
    let number := if counts then lineNumber line else []
    let returned := if s.owesReturn then ['\r'] else []
    let waits := c == '\r' && d.showsEnds && !d.showsOthers
    let shown := returned ++ number ++ (if waits then [] else sign d c)
    (shown.reverse ++ out, { line, ends := -1, owesReturn := waits })

def feed (d : Chore.Display) (s : Chore.Shown) (bs : List UInt8) : List UInt8 × Chore.Shown :=
  if d == {} then (bs, s)
  else
    let (out, s) := (Text.ofBytes bs).foldl (step d) ([], s)
    (Text.toBytes out.reverse, s)

def finish (s : Chore.Shown) : List UInt8 := if s.owesReturn then [13] else []

end DaemonDialogue.Script.Program.Cat
