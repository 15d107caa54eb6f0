import DaemonDialogue.Script.Shell.Basic

/-!
# Listings of shells

Variables, aliases and traps as commands that would make them again. Values stand in
single quotes, and single quotes within them in double ones.
-/

namespace DaemonDialogue.Script

/-- A text in quotes; `fuel` bounds the number of its parts. -/
def quotedWithin : Nat → Text → Text
  | 0, _ => []
  | fuel + 1, t =>
    let plain := t.takeWhile (· != '\'')
    let rest := t.dropWhile (· != '\'')
    let quotes := rest.takeWhile (· == '\'')
    let rest := rest.dropWhile (· == '\'')
    let head := '\'' :: plain ++ ['\'']
    if quotes.isEmpty then head
    else head ++ '"' :: quotes ++ '"' :: (if rest.isEmpty then [] else quotedWithin fuel rest)

def quotedText (t : Text) : Text := quotedWithin (t.length + 1) t

namespace Shell

def variableListing (s : Shell) (word : Text) (isMeant : Variable → Bool) : Text :=
  (s.bindings.sorted.filter fun e => isMeant e.2).flatMap fun (name, v) =>
    let value := match v.value with
      | some value => '=' :: quotedText value
      | none => []
    (if word.isEmpty then [] else word ++ [' ']) ++ name ++ value ++ ['\n']

def aliasLine (name value : Text) : Text := name ++ '=' :: quotedText value ++ ['\n']

def aliasHeaps : Nat := 39

def aliasListing (s : Shell) : Text :=
  (s.aliases.mergeSort fun a b => Text.heap aliasHeaps a.1 ≤ Text.heap aliasHeaps b.1).flatMap fun (name, value) =>
    aliasLine name value

def signalName (n : Nat) : Text := (Signal.names[n]?.getD "").toList

/-- What is done on signals, in their order. -/
def trapListing (s : Shell) : Text :=
  (s.traps.mergeSort fun a b => a.1 ≤ b.1).flatMap fun (signal, action) =>
    "trap -- ".toList ++ quotedText action ++ ' ' :: signalName signal ++ ['\n']

end Shell
end DaemonDialogue.Script
