import DaemonDialogue.Daemon.Program
import DaemonDialogue.Main
import DaemonDialogue.Proofs.Daemon.Lifecycle
import DaemonDialogue.Proofs.Expectation.Race
import DaemonDialogue.Proofs.Log.File
import DaemonDialogue.Proofs.Log.Threads
import DaemonDialogue.Proofs.Node.Attach
import DaemonDialogue.Proofs.Node.Genesis
import DaemonDialogue.Proofs.Node.Session
import DaemonDialogue.Proofs.Node.Socket
import DaemonDialogue.Proofs.Stream.Capture
import DaemonDialogue.Proofs.Stream.Conversation
import DaemonDialogue.Proofs.Stream.Occurrence
import DaemonDialogue.Proofs.Stream.Readers
import DaemonDialogue.Proofs.Template.Rendering
import DaemonDialogue.Proofs.Template.RoundTrip
import DaemonDialogue.Proofs.Trial.Scratch
import DaemonDialogue.Template.Printer
import DaemonDialogue.Trial.Basic
import DaemonDialogue.Trial.Stage
import DaemonDialogue.Proofs.Text.Numeral
import DaemonDialogue.Proofs.Endpoint.Authority
import DaemonDialogue.Proofs.Endpoint.RoundTrip
import DaemonDialogue.Proofs.Stream.Exact
import DaemonDialogue.Proofs.Expectation.Found
import DaemonDialogue.Proofs.Node.Target
import DaemonDialogue.Proofs.Node.Record
import DaemonDialogue.Proofs.Template.Alike
import DaemonDialogue.Proofs.Daemon.Input
import DaemonDialogue.Proofs.Expectation.Deadline
import DaemonDialogue.Proofs.Log.Report
import DaemonDialogue.Proofs.Node.Transcript
import DaemonDialogue.Proofs.Template.Blame
import DaemonDialogue.Proofs.Daemon.Flags
import DaemonDialogue.Proofs.Config.Overlay
import DaemonDialogue.Proofs.Trial.Named
