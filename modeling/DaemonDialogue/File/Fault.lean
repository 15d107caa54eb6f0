/-!
# Faults of the operating system

What the operating system reports when it refuses something, with the number and
the wording it gives to it.
-/

namespace DaemonDialogue

/-- A refusal of the operating system. -/
inductive SystemFault
  | notFound
  | noFormat
  | badAddress
  | permissionDenied
  | exists_
  | notADirectory
  | isADirectory
  | notEmpty
  | invalidArgument
  | brokenPipe
  | inputClosed
  | noChild
  | nameTooLong
  | noDevice
  | addressInUse
  | unreachable
  | refused
  | notASocket
  | socketPathTooLong
  | nulInPath
  | nulInSocketPath
  | notText
  | noSocketAddress
  | noPortValue
  | unknownHost
  | nameServerSilent
  | other (text : String)
  deriving DecidableEq, Repr, Inhabited

def SystemFault.message : SystemFault → String
  | .notFound => "No such file or directory (os error 2)"
  | .noFormat => "Exec format error (os error 8)"
  | .badAddress => "Bad address (os error 14)"
  | .permissionDenied => "Permission denied (os error 13)"
  | .exists_ => "File exists (os error 17)"
  | .notADirectory => "Not a directory (os error 20)"
  | .isADirectory => "Is a directory (os error 21)"
  | .notEmpty => "Directory not empty (os error 39)"
  | .invalidArgument => "Invalid argument (os error 22)"
  | .brokenPipe => "Broken pipe (os error 32)"
  | .inputClosed => "stdin is closed"
  | .noChild => "No child processes (os error 10)"
  | .nameTooLong => "File name too long (os error 36)"
  | .notASocket => "Socket operation on non-socket (os error 88)"
  | .noDevice => "No such device or address (os error 6)"
  | .addressInUse => "Address already in use (os error 98)"
  | .unreachable => "Network is unreachable (os error 101)"
  | .refused => "Connection refused (os error 111)"
  | .socketPathTooLong => "path must be shorter than SUN_LEN"
  | .nulInPath => "file name contained an unexpected NUL byte"
  | .nulInSocketPath => "paths must not contain interior null bytes"
  | .notText => "stream did not contain valid UTF-8"
  | .noSocketAddress => "invalid socket address"
  | .noPortValue => "invalid port value"
  | .unknownHost => "failed to lookup address information: Name or service not known"
  | .nameServerSilent =>
    "failed to lookup address information: Temporary failure in name resolution"
  | .other text => text

def SystemFault.reason (f : SystemFault) : String :=
  String.ofList ((f.message.toList.splitOn '(').headD []).dropLast

/-- Did the reader of what is written go away? -/
def SystemFault.isBrokenPipe : SystemFault → Bool
  | .brokenPipe | .inputClosed => true
  | _ => false

end DaemonDialogue
