/-!
# Characters of ASCII

Digits and letters without regard to other scripts.
-/

namespace DaemonDialogue.Ascii

def isDigit (c : Char) : Bool := '0' ≤ c && c ≤ '9'

def isUpper (c : Char) : Bool := 'A' ≤ c && c ≤ 'Z'

def isLetter (c : Char) : Bool := ('a' ≤ c && c ≤ 'z') || isUpper c

def isAlphanumeric (c : Char) : Bool := isLetter c || isDigit c

/-- The lower case of a Latin letter; other characters are kept. -/
def lower (c : Char) : Char :=
  if isUpper c then Char.ofNat (c.toNat + 32) else c

/-- The upper case of a Latin letter; other characters are kept. -/
def upper (c : Char) : Char :=
  if isLetter c && !isUpper c then Char.ofNat (c.toNat - 32) else c

def digit? (c : Char) : Option Nat :=
  if isDigit c then some (c.toNat - '0'.toNat) else none

def hexDigit? (c : Char) : Option Nat :=
  if isDigit c then some (c.toNat - '0'.toNat)
  else if 'a' ≤ c ∧ c ≤ 'f' then some (c.toNat - 'a'.toNat + 10)
  else if 'A' ≤ c ∧ c ≤ 'F' then some (c.toNat - 'A'.toNat + 10)
  else none

def digitsValue (digits : List Char) : Nat :=
  digits.foldl (fun n c => n * 10 + (c.toNat - '0'.toNat)) 0

end DaemonDialogue.Ascii
