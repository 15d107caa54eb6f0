import DaemonDialogue.Text.Property.Shown

/-!
# Quoted text

A text between double quotes on one line: what cannot be shown, and what would
end or join with the rest of the line, is written as an escape.
-/

namespace DaemonDialogue.Quoted

/-- The hexadecimal digits of a number, in lower case and without leading zeros. -/
def hexDigits (n : Nat) : List Char :=
  Nat.toDigits 16 n

def escape (c : Char) : List Char :=
  if c == '\x00' then ['\\', '0']
  else if c == '\t' then ['\\', 't']
  else if c == '\r' then ['\\', 'r']
  else if c == '\n' then ['\\', 'n']
  else if c == '"' || c == '\\' then ['\\', c]
  else if isCombining c || !isPrintable c then
    ['\\', 'u', '\x7b'] ++ hexDigits c.toNat ++ ['\x7d']
  else [c]

end DaemonDialogue.Quoted

namespace DaemonDialogue

/-- A text in double quotes, with escapes for what cannot be shown. -/
def quoted (text : String) : String :=
  String.ofList ('"' :: text.toList.flatMap Quoted.escape ++ ['"'])

end DaemonDialogue
