import DaemonDialogue.Text.Ascii
import DaemonDialogue.Text.Utf8

/-!
# Text of scripts

Scripts are read byte by byte. A byte is written as the character of the same number, so
that those of ASCII go by their names.
-/

namespace DaemonDialogue.Script

/-- Text of a script: a character below 256 for each byte. -/
abbrev Text := List Char

namespace Text

def ofBytes (bytes : List UInt8) : Text := bytes.map fun b => Char.ofNat b.toNat

def toBytes (t : Text) : List UInt8 := t.map fun c => UInt8.ofNat c.toNat

def ofString (s : String) : Text := ofBytes (Utf8.encode s)

def ofNat (n : Nat) : Text := (toString n).toList

def ofInt (n : Int) : Text := (toString n).toList

def isNameStart (c : Char) : Bool := Ascii.isLetter c || c == '_'

def isNameChar (c : Char) : Bool := Ascii.isAlphanumeric c || c == '_'

def isName : Text → Bool
  | [] => false
  | c :: rest => isNameStart c && rest.all isNameChar

def isSpace (c : Char) : Bool := c == ' ' || ('\t' ≤ c && c ≤ '\r')

/-- Some numbers taken together. -/
def total (ns : List Nat) : Nat := ns.foldl (· + ·) 0

def heap (heaps : Nat) (name : Text) : Nat :=
  ((name.headD '\x00').toNat * 16 + total (name.map Char.toNat)) % heaps

/-- Do the bytes of a text come before those of another, or are they the same? -/
def precedes (a b : Text) : Bool := !decide (b < a)

def fields (separator : Char) (t : Text) : List Text := t.splitOn separator

end Text
end DaemonDialogue.Script
