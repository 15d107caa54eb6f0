import DaemonDialogue.Script.Builtin.Basic

/-!
# Redirections

Descriptors are led elsewhere one after the other. What they led to is kept, so that they
can be led back.
-/

namespace DaemonDialogue.Script

namespace Act

/-- Keeps what a descriptor leads to, unless that was done. -/
def keepDescriptor (n : Nat) : Act Unit := modifySelf fun p =>
  match p.saved with
  | level :: rest =>
    if level.any fun e => e.1 == n then p
    else { p with saved := ((n, p.opening? n) :: level) :: rest }
  | [] => p

def lead (keeps : Bool) (n : Nat) (opening : Option Nat) : Act Unit := do
  if keeps then keepDescriptor n
  modifySelf fun p => p.direct n opening
  commit
  modify fun s => { s with machine := s.machine.sweep }

def refusal (mode : OpenMode) (path : Text) (f : SystemFault) : Text :=
  let word := if mode == .read then "open" else "create"
  let reason := match f, mode with
    | .notFound, .read | .notADirectory, .read => "No such file"
    | .notFound, _ | .notADirectory, _ => "Directory nonexistent"
    | f, _ => f.reason
  "cannot ".toList ++ word.toList ++ ' ' :: path ++ [':', ' '] ++ reason.toList

def redirect (keeps : Bool) (r : Resolved) : Act (Option Text) := do
  let s ← get
  match r with
  | .open_ n mode path =>
    let fresh := mode == .write && s.self.shell.has .noclobber
    match s.machine.openPath s.self mode fresh ⟨Text.toBytes path⟩ with
    | .error f => return some (refusal mode path f)
    | .ok (m, id) =>
      setMachine m
      lead keeps n (some id)
      return none
  | .copy n none =>
    lead keeps n none
    return none
  | .copy n (some source) =>
    if source == n then return none
    else
      match s.self.opening? source with
      | some id =>
        lead keeps n (some id)
        return none
      | none =>
        if keeps then lead keeps n none
        return some (Text.ofNat source ++ ": Bad file descriptor".toList)
  | .document .. => return none
  | .content n t =>
    let (m, pipe) := s.machine.addPipe (({} : Pipe).withBytes (Text.toBytes t))
    let (m, id) := m.open_ { target := .readEnd pipe, reads := true }
    setMachine m
    lead keeps n (some id)
    return none

/-- What comes of making redirections one after the other. -/
inductive Redirected
  | done
  | refused (why : Text)
  | awaits (descriptor number : Nat) (left : List Resolved)

/-- Makes redirections up to one that cannot be made, or that needs the text of a document. -/
def redirectAll (keeps : Bool) : List Resolved → Act Redirected
  | [] => return .done
  | .document n number :: rest => return .awaits n number rest
  | r :: rest => do
    match ← redirect keeps r with
    | some e => return .refused e
    | none => redirectAll keeps rest

end Act
end DaemonDialogue.Script
