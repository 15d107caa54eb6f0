import DaemonDialogue.Pattern.Expr
import DaemonDialogue.Text.Numeral

/-!
# Switches of regular expressions

What a group may set for what follows in it, and what the switches mean for single
characters and sets. In extended form blanks and comments do not count.
-/

namespace DaemonDialogue.Pattern

/-- The switches that a group may set for what follows in it. -/
structure Flags where
  anyCase : Bool := false
  multiLine : Bool := false
  dotAll : Bool := false
  swapGreed : Bool := false
  extended : Bool := false
  unicode : Bool := true
  crlf : Bool := false
  deriving DecidableEq, Repr

namespace Flags

def set? (f : Flags) (on : Bool) : Char → Option Flags
  | 'i' => some { f with anyCase := on }
  | 'm' => some { f with multiLine := on }
  | 's' => some { f with dotAll := on }
  | 'U' => some { f with swapGreed := on }
  | 'u' => some { f with unicode := on }
  | 'x' => some { f with extended := on }
  | 'R' => some { f with crlf := on }
  | _ => none

/-! ## Blanks and comments -/

/-- In extended form: without blanks and comments at the front. A comment ends with its line. -/
def skipExtended (inComment : Bool) : List Char → List Char
  | [] => []
  | c :: rest =>
    if inComment then skipExtended (c != '\n') rest
    else if isBlank c then skipExtended false rest
    else if c == '#' then skipExtended true rest
    else c :: rest

def skip (f : Flags) (text : List Char) : List Char :=
  if f.extended then skipExtended false text else text

/-- Behind the first character and what does not count behind it. -/
def next (f : Flags) (text : List Char) : List Char :=
  f.skip (text.drop 1)

/-- The first character that is no blank nor begins a comment; inside of a comment any
character but a blank is taken. -/
def glance? : Bool → List Char → Option Char
  | _, [] => none
  | inComment, c :: rest =>
    if isBlank c then glance? inComment rest
    else if !inComment && c == '#' then glance? true rest
    else some c

/-- The character that seems to be next behind a hyphen in a set. -/
def peek? (f : Flags) (text : List Char) : Option Char :=
  if f.extended then (glance? false text).or text.head? else text.head?

/-! ## Characters and sets -/

def fold (f : Flags) (s : CharSet) : CharSet :=
  if !f.anyCase then s else if f.unicode then s.fold else s.foldAscii

/-- The characters outside of a set. Without Unicode there would be bytes among them that are
no characters. -/
def compl? (f : Flags) (s : CharSet) : Option CharSet :=
  if f.unicode then some s.compl else none

/-- A set between brackets: with all cases, and then perhaps turned around. -/
def bracketed? (f : Flags) (negated : Bool) (s : CharSet) : Option CharSet :=
  if negated then f.compl? (f.fold s) else some (f.fold s)

def kind? (f : Flags) (letter : Char) : Option CharSet :=
  let set :=
    match Ascii.lower letter with
    | 'd' => if f.unicode then .digits else ⟨[(0x30, 0x39)]⟩
    | 's' => if f.unicode then .blanks else ⟨[(9, 13), (0x20, 0x20)]⟩
    | _ =>
      if f.unicode then .wordParts
      else ⟨[(0x30, 0x39), (0x41, 0x5A), (0x5F, 0x5F), (0x61, 0x7A)]⟩
  if Ascii.isUpper letter then f.compl? set else some set

def literal (f : Flags) (c : Char) : Expr :=
  .ofSet (f.fold (.single c.toNat))

def dot? (f : Flags) : Option Expr :=
  if f.dotAll then (f.compl? .empty).map .set
  else if f.crlf then (f.compl? ⟨[(0xA, 0xA), (0xD, 0xD)]⟩).map .set
  else (f.compl? (.single 0xA)).map .set

def lineStart (f : Flags) : Assertion :=
  if f.multiLine then .lineStart f.crlf else .textStart

def lineEnd (f : Flags) : Assertion :=
  if f.multiLine then .lineEnd f.crlf else .textEnd

def word (f : Flags) (edge : WordEdge) : Assertion :=
  .word (!f.unicode) edge

end Flags
end DaemonDialogue.Pattern
