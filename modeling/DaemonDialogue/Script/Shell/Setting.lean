import DaemonDialogue.Script.Text

/-!
# Settings of shells

How a shell runs its scripts. Each setting has a name, most a letter, too.
-/

namespace DaemonDialogue.Script

inductive Setting
  | errexit
  | noglob
  | ignoreeof
  | interactive
  | monitor
  | noexec
  | stdin
  | xtrace
  | verbose
  | vi
  | emacs
  | noclobber
  | allexport
  | notify
  | nounset
  | privileged
  | nolog
  | debug
  deriving DecidableEq, Repr, Inhabited

/-- The settings with their names and letters, in order. -/
def Setting.table : List (Setting × String × Option Char) :=
  [(.errexit, "errexit", some 'e'), (.noglob, "noglob", some 'f'), (.ignoreeof, "ignoreeof", some 'I'),
    (.interactive, "interactive", some 'i'), (.monitor, "monitor", some 'm'),
    (.noexec, "noexec", some 'n'), (.stdin, "stdin", some 's'), (.xtrace, "xtrace", some 'x'),
    (.verbose, "verbose", some 'v'), (.vi, "vi", some 'V'), (.emacs, "emacs", some 'E'),
    (.noclobber, "noclobber", some 'C'), (.allexport, "allexport", some 'a'),
    (.notify, "notify", some 'b'), (.nounset, "nounset", some 'u'),
    (.privileged, "privileged", some 'p'), (.nolog, "nolog", none), (.debug, "debug", none)]

def Setting.ofLetter? (c : Char) : Option Setting :=
  (table.find? fun e => e.2.2 == some c).map (·.1)

def Setting.ofName? (name : Text) : Option Setting :=
  (table.find? fun e => e.2.1.toList == name).map (·.1)

structure Settings where
  on : List Setting := []
  deriving Repr, Inhabited

namespace Settings

def has (s : Settings) (x : Setting) : Bool := s.on.contains x

/-- The settings with one on or off; the two ways to edit lines exclude each other. -/
def put (s : Settings) (x : Setting) (value : Bool) : Settings :=
  let others := s.on.filter (· != x)
  if !value then ⟨others⟩
  else
    match x with
    | .vi => ⟨x :: others.filter (· != .emacs)⟩
    | .emacs => ⟨x :: others.filter (· != .vi)⟩
    | _ => ⟨x :: others⟩

def letters (s : Settings) : Text :=
  (Setting.table.filterMap fun e => if s.has e.1 then e.2.2 else none).reverse

def listing (s : Settings) : Text :=
  "Current option settings\n".toList ++ Setting.table.flatMap fun (x, name, _) =>
    let name := name.toList
    name ++ List.replicate (16 - name.length) ' ' ++
      (if s.has x then "on\n".toList else "off\n".toList)

def commands (s : Settings) : Text :=
  Setting.table.flatMap fun (x, name, _) =>
    "set ".toList ++ (if s.has x then ['-', 'o', ' '] else ['+', 'o', ' ']) ++ name.toList ++ ['\n']

end Settings
end DaemonDialogue.Script
