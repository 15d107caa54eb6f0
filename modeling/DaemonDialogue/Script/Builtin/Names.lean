import DaemonDialogue.Script.Builtin.Variable
import DaemonDialogue.Script.Token

/-!
# Commands about names of commands

What a name stands for is told, short or in words; aliases are set and taken away.
-/

namespace DaemonDialogue.Script.Builtin

open Act

/-- What is told of a name, or none if it stands for nothing. -/
def description? (verbose : Bool) (name : Text) (manner : Manner) : Act (Option Text) := do
  let s ← get
  let sh := s.self.shell
  let say (words : Text) (short : Text) : Option Text :=
    some ((if verbose then name ++ words else short) ++ ['\n'])
  if (Keyword.ofText? name).isSome then return say " is a shell keyword".toList name
  match sh.aliases.lookup name with
  | some value =>
    if verbose then return say (" is an alias for ".toList ++ value) []
    else return some ("alias ".toList ++ Shell.aliasLine name value)
  | none =>
    let isKnown := !manner.usualPath && !name.contains '/' && (sh.known.any fun k => k.1 == name)
    match ← lookup manner name with
    | .function _ => return say " is a shell function".toList name
    | .builtin b =>
      return say (if b.isSpecial then " is a special shell builtin".toList
        else " is a shell builtin".toList) name
    | .program path =>
      if name.contains '/' && !(s.machine.filesOf s.self).contains ⟨Text.toBytes name⟩ then return none
      else if isKnown then return say (" is a tracked alias for ".toList ++ path) path
      else return say (" is ".toList ++ path) path
    | .missing _ => return none

def describeAll (out : Text) (status : Nat) : List Text → Act Unit
  | [] => reply out status
  | name :: rest => do
    match ← description? true name {} with
    | some t => describeAll (out ++ t) status rest
    | none => describeAll (out ++ name ++ ": not found\n".toList) 127 rest

def runType (arguments : List Text) : Act Unit := do
  describeAll [] 0 arguments

/-- Tells what a name stands for; all else that `command` does is done before. -/
def runCommand (arguments : List Text) : Act Unit := do
  match options [('p', false), ('v', false), ('V', false)] arguments with
  | .error e => fault e
  | .ok (found, left) =>
    let verbose := found.any fun f => f.1 == 'V'
    let asks := verbose || found.any fun f => f.1 == 'v'
    let manner : Manner := { usualPath := found.any fun f => f.1 == 'p' }
    match asks, left with
    | true, name :: _ =>
      match ← description? verbose name manner with
      | some t => reply t 0
      | none => reply (if verbose then name ++ ": not found\n".toList else []) 127
    | _, _ => setStatus 0

/-- The number of heaps that the places of commands are kept on. -/
def knownHeaps : Nat := 31

/-- Looks names up anew. -/
def rememberAll (status : Nat) : List Text → Act Unit
  | [] => setStatus status
  | name :: rest => do
    modifyShell fun sh => { sh with known := sh.known.filter fun k => k.1 != name }
    match ← lookup {} name with
    | .missing f =>
      complain (name ++ [':', ' '] ++ Executable.reason f)
      rememberAll 1 rest
    | _ => rememberAll status rest

/-- Lists, forgets or looks up the places of commands. -/
def runHash (arguments : List Text) : Act Unit := do
  match options [('r', false)] arguments with
  | .error e => fault e
  | .ok (_ :: _, _) =>
    modifyShell fun sh => { sh with known := [] }
    setStatus 0
  | .ok ([], []) =>
    let known := (← shell).known.mergeSort fun a b =>
      Text.heap knownHeaps a.1 ≤ Text.heap knownHeaps b.1
    reply (known.flatMap fun k => k.2 ++ ['\n']) 0
  | .ok ([], left) => rememberAll 0 left

def setAliases (out : Text) (status : Nat) : List Text → Act Unit
  | [] => reply out status
  | argument :: rest => do
    match argument with
    | [] => setAliases out status rest
    | c :: more =>
      match Cut.atFirst? '=' more with
      | some (name, value) =>
        let name := c :: name
        modifyShell fun sh =>
          if sh.aliases.any fun a => a.1 == name then
            { sh with aliases := sh.aliases.map fun a => if a.1 == name then (name, value) else a }
          else { sh with aliases := sh.aliases ++ [(name, value)] }
        setAliases out status rest
      | none =>
        match (← shell).aliases.lookup argument with
        | some value => setAliases (out ++ Shell.aliasLine argument value) status rest
        | none =>
          report ("alias: ".toList ++ argument ++ " not found\n".toList)
          setAliases out 1 rest

def runAlias (arguments : List Text) : Act Unit := do
  if arguments.isEmpty then reply (← shell).aliasListing 0
  else setAliases [] 0 arguments

def dropAliases (status : Nat) : List Text → Act Unit
  | [] => setStatus status
  | name :: rest => do
    if (← shell).aliases.any fun a => a.1 == name then
      modifyShell fun sh => { sh with aliases := sh.aliases.filter fun a => a.1 != name }
      dropAliases status rest
    else
      report ("unalias: ".toList ++ name ++ " not found\n".toList)
      dropAliases 1 rest

def runUnalias (arguments : List Text) : Act Unit := do
  match options [('a', false)] arguments with
  | .error e => fault e
  | .ok (_ :: _, _) =>
    modifyShell fun sh => { sh with aliases := [] }
    setStatus 0
  | .ok ([], left) => dropAliases 0 left

end DaemonDialogue.Script.Builtin
