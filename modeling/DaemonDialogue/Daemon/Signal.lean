/-!
# Signals and ends of processes

A process ends with a code of its own or by a signal. Both have one number: a signal
counts from 128.
-/

namespace DaemonDialogue

structure Signal where
  number : Nat
  deriving DecidableEq, Repr, Inhabited

namespace Signal

def interrupt : Signal := ⟨2⟩
def kill : Signal := ⟨9⟩
def pipe : Signal := ⟨13⟩
def terminate : Signal := ⟨15⟩
def arithmetic : Signal := ⟨8⟩

/-- The first and the last of the signals that have no meaning of their own. -/
def firstFree : Nat := 34
def lastFree : Nat := 64

/-- The names of the signals that have a meaning, in the order of their numbers. -/
def meanings : List String :=
  ["EXIT", "HUP", "INT", "QUIT", "ILL", "TRAP", "ABRT", "BUS", "FPE", "KILL", "USR1", "SEGV", "USR2",
    "PIPE", "ALRM", "TERM", "16", "CHLD", "CONT", "STOP", "TSTP", "TTIN", "TTOU", "URG", "XCPU",
    "XFSZ", "VTALRM", "PROF", "WINCH", "IO", "PWR", "SYS", "32", "33"]

/-- The name of a signal that has no meaning of its own: counted from the nearer end. -/
def freeName (n : Nat) : String :=
  if n = firstFree then "RTMIN"
  else if n = lastFree then "RTMAX"
  else if n - firstFree ≤ lastFree - n then s!"RTMIN+{n - firstFree}"
  else s!"RTMAX-{lastFree - n}"

def names : List String :=
  meanings ++ (List.range (lastFree + 1 - firstFree)).map fun i => freeName (i + firstFree)

def describe (s : Signal) : String :=
  (["", "Hangup", "Interrupt", "Quit", "Illegal instruction", "Trace/breakpoint trap", "Aborted",
    "Bus error", "Floating point exception", "Killed", "User defined signal 1", "Segmentation fault",
    "User defined signal 2", "Broken pipe", "Alarm clock", "Terminated", "Stack fault",
    "Child exited", "Continued", "Stopped (signal)", "Stopped", "Stopped (tty input)",
    "Stopped (tty output)", "Urgent I/O condition", "CPU time limit exceeded",
    "File size limit exceeded", "Virtual timer expired", "Profiling timer expired",
    "Window changed", "I/O possible", "Power failure", "Bad system call"][s.number]?).getD
    (if s.number < firstFree then s!"Unknown signal {s.number}"
      else s!"Real-time signal {s.number - firstFree}")

/-- Do processes go on when they are sent this signal, unless they said otherwise? -/
def isHarmless (s : Signal) : Bool := [17, 18, 23, 28].contains s.number

/-- Does this signal only make a process pause? -/
def isPause (s : Signal) : Bool := [19, 20, 21, 22].contains s.number

def isFinal (s : Signal) : Bool := s.number == 9 || s.number == 19

end Signal

inductive ExitStatus
  | code (n : Nat)
  | signal (s : Signal)
  deriving DecidableEq, Repr, Inhabited

namespace ExitStatus

def number : ExitStatus → Nat
  | .code n => n
  | .signal s => 128 + s.number

def isSuccess (s : ExitStatus) : Bool := s == .code 0

end ExitStatus
end DaemonDialogue
