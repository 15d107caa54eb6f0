import DaemonDialogue.Config.Basic
import DaemonDialogue.Endpoint.Basic
import DaemonDialogue.File.Fault
import DaemonDialogue.Stream.Buffer
import DaemonDialogue.Template.Basic

/-!
# Failures of a test

Everything that can go wrong between a test and its daemons, with one wording for
each. Failures of the setup happen before anything was asserted; an expectation
fails when it gives up waiting.
-/

namespace DaemonDialogue

/-- What went wrong between a test and its daemons. -/
inductive Failure
  | launchFailed (program : String) (source : SystemFault)
  | expectTimeout (channel : Channel) (expected actual : String) (timeout : Span)
  | streamClosed (channel : Channel) (expected actual : String)
  | unexpectedExit (expected : String) (actual : Int)
  | endpointUnreachable (endpoint : String) (timeout : Span)
  | invalidEndpoint (fault : Endpoint.Fault)
  | template (error : Template.Error)
  | config (fault : Config.Fault)
  | invalidPattern
  | processExited (name : String) (pid : Nat)
  | system (fault : SystemFault)
  deriving DecidableEq, Repr

namespace Failure

/-- What a stream held when an expectation gave up. -/
def actualPart (channel : Channel) (actual : String) : String :=
  "\n--- actual " ++ channel.name ++ " ---\n" ++ actual

def message : Failure → String
  | .launchFailed program source => s!"Process failed to start: {program}: {source.message}"
  | .expectTimeout channel expected actual timeout =>
    s!"Timed out after {timeout.render} waiting for {channel.name} to contain " ++
      quoted expected ++ actualPart channel actual
  | .streamClosed channel expected actual =>
    channel.name ++ " closed before " ++ quoted expected ++ " appeared" ++
      actualPart channel actual
  | .unexpectedExit expected actual =>
    s!"Unexpected exit status: expected {expected}, got {actual}"
  | .endpointUnreachable endpoint timeout =>
    s!"Endpoint {endpoint} not reachable after {timeout.render}"
  | .invalidEndpoint fault => s!"Invalid endpoint: {fault.message}"
  | .template error => s!"Template error: {error.message}"
  | .config fault => s!"Invalid configuration: {fault.message}"
  | .invalidPattern => "Invalid pattern: <regex>"
  | .processExited name pid => s!"Process {name} (pid={pid}) has already exited"
  | .system fault => s!"IO error: {fault.message}"

def isSetupFailure : Failure → Bool
  | .launchFailed .. | .endpointUnreachable .. | .invalidEndpoint _ | .template _ | .config _
  | .invalidPattern => true
  | _ => false

def isExpectationFailure : Failure → Bool
  | .expectTimeout .. | .streamClosed .. => true
  | _ => false

end Failure
end DaemonDialogue
