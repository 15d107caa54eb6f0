import DaemonDialogue.Node.Program
import DaemonDialogue.Proofs.Node.Wire
import DaemonDialogue.Proofs.Stream.Line

/-!
# Attached consoles

Within what a server reads, a request gets the answer of the node, and so every line of a
session over a connection gets the answer that it gets on the node itself.
-/

namespace DaemonDialogue.Node

variable {node : Info}

def Request.sent (request : Request) : List UInt8 :=
  Utf8.encode request.line ++ [Newline.lineFeed]

/-- How many bytes requests are on a connection. -/
def Request.load (requests : List Request) : Nat := (requests.map fun r => r.sent.length).sum

/-- Does a server read all of some requests behind `taken` bytes: is no line too long, and
are they not too many? -/
structure Request.Within (taken : Nat) (requests : List Request) : Prop where
  line : ∀ r ∈ requests, r.line.utf8ByteSize ≤ Server.maxLine
  all : taken + Request.load requests ≤ Server.maxConnection

theorem Request.Within.head {taken : Nat} {request : Request} {rest : List Request}
    (h : Request.Within taken (request :: rest)) :
    request.line.utf8ByteSize ≤ Server.maxLine ∧
      taken + request.sent.length ≤ Server.maxConnection := by
  have hall := h.all
  simp only [Request.load, List.map_cons, List.sum_cons] at hall
  exact ⟨h.line request (by simp), by omega⟩

theorem Request.Within.tail {taken : Nat} {request : Request} {rest : List Request}
    (h : Request.Within taken (request :: rest)) :
    Request.Within (taken + request.sent.length) rest := by
  have hall := h.all
  simp only [Request.load, List.map_cons, List.sum_cons] at hall
  exact ⟨fun r hr => h.line r (by simp [hr]), by rw [Request.load]; omega⟩

/-! ## One request -/

theorem answer_line (transport : Transport) {request : Request}
    (h : request.line.utf8ByteSize ≤ Server.maxLine) :
    Server.answer node transport request.line = respond node transport request := by
  rw [Server.answer, if_neg (Nat.not_lt.2 h), request.decode_line]

theorem Request.line_nonempty (request : Request) : request.line.isEmpty = false := by
  cases request <;> simp [Request.line, Request.toJson, Json.compact, Json.chars]

theorem reply?_line (transport : Transport) {request : Request}
    (h : request.line.utf8ByteSize ≤ Server.maxLine) :
    Server.reply? node transport request.line = some (respond node transport request) := by
  rw [Server.reply?, request.trim_line, if_neg (by simp [request.line_nonempty]), answer_line _ h]

theorem peer_sent (transport : Transport) {request : Request} {taken : Nat}
    (hline : request.line.utf8ByteSize ≤ Server.maxLine)
    (hall : taken + request.sent.length ≤ Server.maxConnection) :
    Server.peer node transport request.sent taken =
      (some (Utf8.encode ((respond node transport request).line ++ "\n")),
        taken + request.sent.length) := by
  have htake : request.sent.take (Server.maxConnection - taken) = request.sent :=
    List.take_of_length_le (by omega)
  have hempty : request.sent.isEmpty = false := by simp [Request.sent]
  have htext : Line.text request.sent = .ok request.line := Line.text_line request.visible_line
  rw [Server.peer, htake]
  simp only [hempty, htext, reply?_line transport hline]
  simp

theorem receive_line {σ : Type} (response : Response) (state : σ) :
    Client.receive { received := Utf8.encode (response.line ++ "\n"), state } =
      (.ok response.line, { state }) := by
  have hvisible := response.visible_line
  have hbytes : Utf8.encode (response.line ++ "\n") =
      Utf8.encode response.line ++ Newline.lineFeed :: [] := by
    rw [Utf8.encode_append]
    rfl
  rw [Client.receive, hbytes, Line.all_line [] (Line.lineFeed_notMem hvisible)]
  simp only [Line.text_line hvisible]
  rfl

theorem call_eq (h : node.Fits) (transport : Transport) {request : Request} {taken : Nat}
    (hline : request.line.utf8ByteSize ≤ Server.maxLine)
    (hall : taken + request.sent.length ≤ Server.maxConnection) :
    Client.call (Server.peer node transport) request { state := taken } =
      (.ok (respond node transport request), { state := taken + request.sent.length }) := by
  have hfits := respond_fits h transport request
  have hsend : Client.send (Server.peer node transport) request.line { state := taken } =
      (.ok (), ⟨Utf8.encode ((respond node transport request).line ++ "\n"), false,
        taken + request.sent.length⟩) := by
    have hpeer : Server.peer node transport (Utf8.encode request.line ++ [Newline.lineFeed]) taken =
      _ := peer_sent transport hline hall
    rw [Client.send, if_neg Bool.false_ne_true]
    simp only [hpeer]
    rfl
  rw [Client.call, hsend]
  simp only [receive_line, Response.decode_line hfits]

theorem replies_sent (transport : Transport) {requests : List Request}
    (h : ∀ r ∈ requests, r.line.utf8ByteSize ≤ Server.maxLine) :
    Server.replies node transport (requests.map Request.sent) =
      requests.map (respond node transport) := by
  induction requests with
  | nil => rfl
  | cons request rest ih =>
    have htext : Line.text request.sent = .ok request.line := Line.text_line request.visible_line
    rw [List.map_cons, Server.replies, htext]
    simp only [reply?_line transport (h request List.mem_cons_self)]
    rw [ih fun r hr => h r (List.mem_cons_of_mem _ hr)]
    rfl

/-- A server that is given all requests at once answers each as if it came alone. -/
theorem serve_sent (transport : Transport) {requests : List Request}
    (h : Request.Within 0 requests) :
    Server.serve node transport (requests.flatMap Request.sent) =
      requests.map (respond node transport) := by
  have hlength : (requests.flatMap Request.sent).length ≤ Server.maxConnection := by
    have hall := h.all
    rwa [Nat.zero_add, Request.load, ← List.length_flatMap] at hall
  have hvisible : ∀ text ∈ requests.map Request.line, Visible text.toList := by
    simpa using fun r _ => Request.visible_line r
  have hlines : Line.all (requests.flatMap Request.sent) = requests.map Request.sent := by
    have htexts := Line.all_texts hvisible
    rwa [List.flatMap_map, List.map_map] at htexts
  rw [Server.serve, List.take_of_length_le hlength, hlines, replies_sent transport h.line]

theorem info_eq (h : node.Fits) (transport : Transport) {taken : Nat}
    (hline : Request.info.line.utf8ByteSize ≤ Server.maxLine)
    (hall : taken + Request.info.sent.length ≤ Server.maxConnection) :
    Client.info (Server.peer node transport) { state := taken } =
      (.ok ⟨node, transport.modules, transport⟩,
        { state := taken + Request.info.sent.length }) := by
  rw [Client.info, call_eq h transport hline hall]
  rfl

theorem eval_eq (h : node.Fits) (transport : Transport) {expression : String} {taken : Nat}
    (hline : (Request.eval expression).line.utf8ByteSize ≤ Server.maxLine)
    (hall : taken + (Request.eval expression).sent.length ≤ Server.maxConnection) :
    Client.eval (Server.peer node transport) expression { state := taken } =
      (.ok (Console.evaluate node expression),
        { state := taken + (Request.eval expression).sent.length }) := by
  rw [Client.eval, call_eq h transport hline hall, respond]
  cases Console.evaluate node expression <;> rfl

/-! ## Sessions -/

/-- The expressions that a session asks for: lines that are not blank, up to one that ends it. -/
def Console.asked : List (List UInt8) → List String
  | [] => []
  | raw :: rest =>
    match Line.text raw with
    | .error _ => []
    | .ok line =>
      if trim line = "exit" then []
      else if (trim line).isEmpty then Console.asked rest
      else trim line :: Console.asked rest

/-- The end of a session with the node itself, of which none can fail. -/
def Console.Ending.ofOwn {ε : Type} : Console.Ending Empty → Console.Ending ε
  | .finished => .finished
  | .waiting => .waiting
  | .unreadable fault => .unreadable fault
  | .failed e => nomatch e

/-- A session over a connection goes like one on the node itself. -/
theorem converse_eq (h : node.Fits) (transport : Transport) (closed : Bool)
    {lines : List (List UInt8)} (output : String) {taken : Nat}
    (hwithin : Request.Within taken ((Console.asked lines).map .eval)) :
    Console.converse (Client.evaluator (Server.peer node transport)) closed output
        { state := taken } lines =
      let own := Console.converse (Console.ofNode node) closed output () lines
      ⟨own.output, { state := taken + Request.load ((Console.asked lines).map .eval) },
        own.ending.ofOwn⟩ := by
  induction lines generalizing output taken with
  | nil => cases closed <;> rfl
  | cons raw rest ih =>
    cases htext : Line.text raw with
    | error fault =>
      simp [Console.converse, Console.asked, htext, Request.load, Console.Ending.ofOwn]
    | ok line =>
      simp only [Console.asked, htext] at hwithin
      by_cases hexit : trim line = "exit"
      · simp [Console.converse, Console.asked, htext, hexit, Request.load, Console.Ending.ofOwn]
      · by_cases hblank : (trim line).isEmpty
        · rw [if_neg hexit, if_pos hblank] at hwithin
          simp [Console.converse, Console.asked, htext, hexit, hblank, ih _ hwithin]
        · rw [if_neg hexit, if_neg hblank, List.map_cons] at hwithin
          have heval := eval_eq h transport hwithin.head.1 hwithin.head.2
          simp [Console.converse, Console.asked, htext, hexit, hblank, Client.evaluator, heval,
            ih _ hwithin.tail, Console.ofNode, Request.load, Nat.add_assoc]

/-- What a console that is attached prints: the banner for those who see as much as the transport
lets them, and the session of the node. -/
theorem attachConsole_output (h : node.Fits) (transport : Transport) (input : Console.Input)
    (s : Site) (hwithin : Request.Within 0 (.info :: (Console.asked input.lines).map .eval)) :
    (Arguments.attachConsole (Server.peer node transport) input { state := 0 } s).2.output =
      Console.welcome node transport.modules (transport == .ipc) ++
        (Console.run (Console.ofNode node) input ()).output := by
  have hinfo := info_eq h transport hwithin.head.1 hwithin.head.2
  have hrun := converse_eq h transport input.closed "" hwithin.tail
  rw [Arguments.attachConsole, hinfo]
  simp only [Console.run, hrun]
  cases (Console.converse (Console.ofNode node) input.closed "" () input.lines).ending with
  | finished => rfl
  | waiting => rfl
  | unreadable fault => rfl
  | failed e => exact e.elim

theorem ownConsole_output (r : Running) (input : Console.Input) (s : Site) :
    (Arguments.ownConsole r input s).2.output =
      Console.welcome r.info Transport.localModules true ++
        (Console.run (Console.ofNode r.info) input ()).output := by
  rw [Arguments.ownConsole]
  cases (Console.run (Console.ofNode r.info) input ()).ending with
  | finished => rfl
  | waiting => rfl
  | unreadable fault => rfl
  | failed e => exact e.elim

theorem execRemote_eq (h : node.Fits) (transport : Transport) {expression : String} (s : Site)
    (hwithin : Request.Within 0 [.eval expression]) :
    Arguments.execRemote (Server.peer node transport) expression { state := 0 } s =
      Run.exit (Console.show_ (Console.evaluate node expression) ++ "\n") s
        (Run.isValue (Console.evaluate node expression)) := by
  rw [Arguments.execRemote, eval_eq h transport hwithin.head.1 hwithin.head.2]

/-- A console that is attached to a node is one on the node itself: over a socket it prints the
same, over the network all but the banner, and an expression has the same line and code. -/
theorem attach_eq_own (r : Running) (h : r.info.Fits) :
    (∀ (input : Console.Input) (s s' : Site),
      Request.Within 0 (.info :: (Console.asked input.lines).map .eval) →
        (Arguments.attachConsole (Server.peer r.info .ipc) input { state := 0 } s).2.output =
            (Arguments.ownConsole r input s').2.output ∧
          ∀ transport ≠ Transport.ipc, ∃ session,
            (Arguments.attachConsole (Server.peer r.info transport) input
                { state := 0 } s).2.output =
                Console.welcome r.info Transport.networkModules false ++ session ∧
              (Arguments.ownConsole r input s').2.output =
                Console.welcome r.info Transport.localModules true ++ session) ∧
      ∀ (a : Arguments) (expression : String) (input : Console.Input) (s s' : Site)
        (transport : Transport), a.exec = some expression →
          Request.Within 0 [.eval expression] →
            (Arguments.execRemote (Server.peer r.info transport) expression
                { state := 0 } s).2.output = (a.operate input r s').2.output ∧
              (Arguments.execRemote (Server.peer r.info transport) expression
                { state := 0 } s).2.phase = (a.operate input r s').2.phase := by
  constructor
  · intro input s s' hwithin
    rw [attachConsole_output h .ipc input s hwithin, ownConsole_output]
    refine ⟨rfl, fun transport hnot => ⟨_, ?_, rfl⟩⟩
    rw [attachConsole_output h transport input s hwithin]
    cases transport with
    | ipc => exact absurd rfl hnot
    | http => rfl
    | ws => rfl
  · intro a expression input s s' transport hexec hwithin
    rw [execRemote_eq h transport s hwithin, Arguments.operate, hexec]
    exact ⟨rfl, rfl⟩

/-- Lines that are known, blank, quoted and the last, on a node with the greatest number. -/
theorem attach_eq_own_lines :
    (Arguments.attachConsole (Server.peer (Running.info
          { info := ⟨"Testnode", "mainnet", 1, Numeral.maxU64, "0xd4", "0x0", "/é"⟩ }) .ipc)
        ⟨Utf8.encode "eth.chainId\r\n\n\"é\nexit\n", true⟩ { state := 0 }
        { host := { files := {} } }).2.output =
      (Arguments.ownConsole
        { info := ⟨"Testnode", "mainnet", 1, Numeral.maxU64, "0xd4", "0x0", "/é"⟩ }
        ⟨Utf8.encode "eth.chainId\r\n\n\"é\nexit\n", true⟩
        { host := { files := {} } }).2.output ∧
    (Arguments.execRemote (Server.peer (Running.info
          { info := ⟨"Testnode", "mainnet", 1, Numeral.maxU64, "0xd4", "0x0", "/é"⟩ }) .http)
        "\"é" { state := 0 } { host := { files := {} } }).2.phase =
      (Arguments.operate { exec := some "\"é" } {}
        { info := ⟨"Testnode", "mainnet", 1, Numeral.maxU64, "0xd4", "0x0", "/é"⟩ }
        { host := { files := {} } }).2.phase := by
  have hfits : Info.Fits ⟨"Testnode", "mainnet", 1, Numeral.maxU64, "0xd4", "0x0", "/é"⟩ :=
    ⟨by decide, le_rfl⟩
  have hlines : Request.Within 0 (.info :: (Console.asked (Console.Input.lines
      ⟨Utf8.encode "eth.chainId\r\n\n\"é\nexit\n", true⟩)).map .eval) :=
    ⟨by decide +kernel, by decide +kernel⟩
  have hexec : Request.Within 0 [.eval "\"é"] := ⟨by decide +kernel, by decide +kernel⟩
  have heq := attach_eq_own
    { info := ⟨"Testnode", "mainnet", 1, Numeral.maxU64, "0xd4", "0x0", "/é"⟩ } hfits
  exact ⟨(heq.1 ⟨Utf8.encode "eth.chainId\r\n\n\"é\nexit\n", true⟩ { host := { files := {} } }
      { host := { files := {} } } hlines).1,
    (heq.2 { exec := some "\"é" } "\"é" {} { host := { files := {} } }
      { host := { files := {} } } .http rfl hexec).2⟩

end DaemonDialogue.Node
