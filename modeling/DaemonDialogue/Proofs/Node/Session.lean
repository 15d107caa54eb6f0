import DaemonDialogue.Node.Server
import DaemonDialogue.Proofs.Node.Wire
import DaemonDialogue.Proofs.Stream.Line

/-!
# Connections piece by piece

A server reads a connection in pieces of any size and answers a line as soon as it is complete.
What it writes in the end depends on the bytes alone: one line for each line that is not blank, up
to the first that is no text.
-/

namespace DaemonDialogue.Node.Server

variable (node : Info) (transport : Transport)

def sent (response : Response) : List UInt8 :=
  Utf8.encode response.line ++ [Newline.lineFeed]

/-- What a server has written on a connection, and whether a line that is no text has ended it. -/
structure Answers where
  written : List UInt8 := []
  ended : Bool := false
  deriving DecidableEq, Repr

/-- Answers a line, unless the connection has ended. -/
def hear (a : Answers) (raw : List UInt8) : Answers :=
  if a.ended then a
  else
    match Line.text raw with
    | .error _ => { a with ended := true }
    | .ok line =>
      { a with written := a.written ++ (reply? node transport line).toList.flatMap sent }

/-- A connection while it is read: how many bytes are still read from it, the start of a line
that is not complete, and the answers so far. -/
structure Session where
  room : Nat := maxConnection
  pending : List UInt8 := []
  answers : Answers := {}
  deriving DecidableEq, Repr

/-- Reads a piece and answers the lines that it completes. -/
def Session.take (s : Session) (piece : List UInt8) : Session :=
  let (lines, rest) := Line.split (s.pending ++ piece.take s.room)
  { room := s.room - piece.length
    pending := rest
    answers := lines.foldl (hear node transport) s.answers }

/-- Answers what is left where nothing more is read. -/
def Session.finish (s : Session) : Answers :=
  if s.pending.isEmpty then s.answers else hear node transport s.answers s.pending

def run (pieces : List (List UInt8)) : Answers :=
  (pieces.foldl (Session.take node transport) {}).finish node transport

/-! ## The bytes alone -/

/-- A connection from which some bytes have come: what of them is read is answered line by
line. -/
structure Session.Read (bytes : List UInt8) (s : Session) : Prop where
  room : s.room = maxConnection - bytes.length
  pending : s.pending = (Line.split (bytes.take maxConnection)).2
  answers : s.answers =
    (Line.split (bytes.take maxConnection)).1.foldl (hear node transport) {}

variable {node transport}

theorem Session.Read.start : Session.Read node transport [] {} where
  room := rfl
  pending := rfl
  answers := rfl

theorem Session.Read.take {bytes : List UInt8} {s : Session} (h : s.Read node transport bytes)
    (piece : List UInt8) : (s.take node transport piece).Read node transport (bytes ++ piece) := by
  have hbytes : (bytes ++ piece).take maxConnection =
      bytes.take maxConnection ++ piece.take s.room := by
    rw [List.take_append, h.room]
  have hsplit := Line.split_split (bytes.take maxConnection) (piece.take s.room)
  rw [← hbytes, ← h.pending] at hsplit
  refine ⟨?_, ?_, ?_⟩
  · rw [Session.take, List.length_append, h.room, Nat.sub_sub]
  · rw [hsplit]
    rfl
  · rw [hsplit, List.foldl_append, ← h.answers]
    rfl

theorem Session.Read.foldl {bytes : List UInt8} {s : Session} (h : s.Read node transport bytes)
    (pieces : List (List UInt8)) :
    (pieces.foldl (Session.take node transport) s).Read node transport
      (bytes ++ pieces.flatten) := by
  induction pieces generalizing bytes s with
  | nil => simpa using h
  | cons piece rest ih =>
    rw [List.flatten_cons, ← List.append_assoc]
    exact ih (h.take piece)

theorem run_eq (pieces : List (List UInt8)) :
    run node transport pieces =
      (Line.all (pieces.flatten.take maxConnection)).foldl (hear node transport) {} := by
  have hread : (pieces.foldl (Session.take node transport) {}).Read node transport pieces.flatten :=
    Session.Read.start.foldl pieces
  rw [run, Session.finish, hread.answers, hread.pending, Line.all]
  dsimp only
  split_ifs
  · rfl
  · rw [List.foldl_append]
    rfl

/-! ## The answers -/

/-- Is a line none of a text? -/
def NoText (raw : List UInt8) : Prop := ∀ text, Line.content raw ≠ Utf8.encode text

theorem text_of_content {raw : List UInt8} {text : String}
    (h : Line.content raw = Utf8.encode text) : Line.text raw = .ok text :=
  Utf8.strictDecode_eq_ok_iff.2 h

theorem noText_iff {raw : List UInt8} : NoText raw ↔ ∃ fault, Line.text raw = .error fault := by
  constructor
  · intro h
    cases htext : Line.text raw with
    | error fault => exact ⟨fault, rfl⟩
    | ok text => exact absurd (Utf8.strictDecode_eq_ok_iff.1 htext) (h text)
  · rintro ⟨fault, hfault⟩ text hcontent
    rw [text_of_content hcontent] at hfault
    cases hfault

theorem foldl_hear_ended {a : Answers} (h : a.ended = true) (lines : List (List UInt8)) :
    lines.foldl (hear node transport) a = a := by
  induction lines with
  | nil => rfl
  | cons raw rest ih => rw [List.foldl_cons, hear, if_pos h, ih]

/-- Lines are answered by replies up to the first that is no text, and that one ends the
connection. -/
theorem foldl_hear {a : Answers} (h : a.ended = false) (lines : List (List UInt8)) :
    (lines.foldl (hear node transport) a).written =
        a.written ++ (replies node transport lines).flatMap sent ∧
      ((lines.foldl (hear node transport) a).ended = true ↔ ∃ raw ∈ lines, NoText raw) := by
  induction lines generalizing a with
  | nil => simp [replies, h]
  | cons raw rest ih =>
    rw [List.foldl_cons, hear, if_neg (by simp [h])]
    cases htext : Line.text raw with
    | error fault =>
      have hno : NoText raw := noText_iff.2 ⟨fault, htext⟩
      simp [foldl_hear_ended, replies, htext, hno]
    | ok text =>
      have hno : ¬NoText raw := fun hno => by
        obtain ⟨fault, hfault⟩ := noText_iff.1 hno
        rw [htext] at hfault
        cases hfault
      obtain ⟨hwritten, hended⟩ := ih (a := { a with
        written := a.written ++ (reply? node transport text).toList.flatMap sent }) h
      refine ⟨?_, ?_⟩
      · rw [hwritten]
        simp [replies, htext]
      · rw [hended]
        simp [hno]

variable (node transport)

/-- The answers to the texts of lines: those without the blank ones. -/
def answered (texts : List String) : List Response :=
  ((texts.map trim).filter fun line => !line.isEmpty).map (answer node transport)

variable {node transport}

theorem answered_cons (text : String) (rest : List String) :
    answered node transport (text :: rest) =
      (reply? node transport text).toList ++ answered node transport rest := by
  rw [answered, answered, reply?, List.map_cons, List.filter_cons]
  split_ifs <;> simp_all

theorem replies_texts {lines : List (List UInt8)} {texts : List String}
    (h : lines.map Line.content = texts.map Utf8.encode) (after : List (List UInt8)) :
    replies node transport (lines ++ after) =
      answered node transport texts ++ replies node transport after := by
  induction texts generalizing lines with
  | nil =>
    obtain rfl : lines = [] := by simpa using h
    rfl
  | cons text texts ih =>
    obtain ⟨raw, rest, rfl⟩ : ∃ raw rest, lines = raw :: rest :=
      List.exists_cons_of_ne_nil (by rintro rfl; simp at h)
    obtain ⟨hraw, hrest⟩ := List.cons.inj h
    rw [List.cons_append, replies, text_of_content hraw]
    dsimp only
    rw [ih hrest, answered_cons, List.append_assoc]

theorem replies_noText {raw : List UInt8} (h : NoText raw) (after : List (List UInt8)) :
    replies node transport (raw :: after) = [] := by
  obtain ⟨fault, hfault⟩ := noText_iff.1 h
  rw [replies, hfault]

theorem all_sent (responses : List Response) :
    Line.all (responses.flatMap sent) = responses.map sent := by
  have hvisible : ∀ text ∈ responses.map Response.line, Visible text.toList := by
    simpa using fun r _ => Response.visible_line r
  have htexts := Line.all_texts hvisible
  rwa [List.flatMap_map, List.map_map] at htexts

/-- What a server writes is what it answers to all bytes at once. -/
theorem run_eq_serve (pieces : List (List UInt8)) :
    (run node transport pieces).written =
      (serve node transport pieces.flatten).flatMap sent := by
  rw [run_eq, (foldl_hear rfl _).1, serve]
  rfl

/-! ## One answer -/

theorem answer_long {line : String} (h : maxLine < line.utf8ByteSize) :
    answer node transport line = .error "request too large" := by
  rw [answer, if_pos h]

theorem answer_request {line : String} (h : line.utf8ByteSize ≤ maxLine) {request : Request}
    (hdecode : Json.decode Request.ofJson line = .ok request) :
    answer node transport line = respond node transport request := by
  rw [answer, if_neg (Nat.not_lt.2 h), hdecode]

theorem answer_noRequest {line : String} (h : line.utf8ByteSize ≤ maxLine)
    (hdecode : ∀ request, Json.decode Request.ofJson line ≠ .ok request) :
    ∃ why, answer node transport line = .error ("invalid request: " ++ why) := by
  rw [answer, if_neg (Nat.not_lt.2 h)]
  cases heq : Json.decode Request.ofJson line with
  | error e => exact ⟨e.message, rfl⟩
  | ok request => exact absurd heq (hdecode request)

/-- Requests and answers never get out of step: of the first bytes of a connection, every line
that is not blank is answered with one line of its own, up to a line that is no text. -/
theorem run_answers (node : Info) (transport : Transport) (pieces : List (List UInt8)) :
    let lines := Line.all (pieces.flatten.take (16 * 1024 * 1024))
    let a := run node transport pieces
    a.written = (serve node transport pieces.flatten).flatMap sent ∧
    (∀ texts : List String, lines.map Line.content = texts.map Utf8.encode →
      Line.all a.written = (answered node transport texts).map sent ∧ a.ended = false) ∧
    (∀ (texts : List String) (before after : List (List UInt8)) (raw : List UInt8),
      lines = before ++ raw :: after → before.map Line.content = texts.map Utf8.encode →
      NoText raw →
      Line.all a.written = (answered node transport texts).map sent ∧ a.ended = true) ∧
    (∀ line : String, 65536 < line.utf8ByteSize →
      answer node transport line = .error "request too large") ∧
    (∀ line : String, line.utf8ByteSize ≤ 65536 →
      (∀ request, Json.decode Request.ofJson line = .ok request →
        answer node transport line = respond node transport request) ∧
      ((∀ request, Json.decode Request.ofJson line ≠ .ok request) →
        ∃ why, answer node transport line = .error ("invalid request: " ++ why))) := by
  intro lines a
  have hwritten : a.written = (replies node transport lines).flatMap sent := run_eq_serve pieces
  have hended : a.ended = true ↔ ∃ raw ∈ lines, NoText raw := by
    change (run node transport pieces).ended = true ↔ _
    rw [run_eq]
    exact (foldl_hear rfl lines).2
  refine ⟨run_eq_serve pieces, fun texts htexts => ⟨?_, ?_⟩,
    fun texts before after raw hlines htexts hraw => ⟨?_, ?_⟩, fun line => answer_long,
    fun line hline => ⟨fun request => answer_request hline, answer_noRequest hline⟩⟩
  · have hreplies : replies node transport lines = answered node transport texts := by
      simpa [replies] using @replies_texts node transport _ _ htexts []
    rw [hwritten, all_sent, hreplies]
  · rw [Bool.eq_false_iff, ne_eq, hended]
    rintro ⟨raw, hmem, hraw⟩
    have hcontent : Line.content raw ∈ texts.map Utf8.encode := htexts ▸ List.mem_map_of_mem hmem
    obtain ⟨text, -, htext⟩ := List.mem_map.1 hcontent
    exact hraw text htext.symm
  · rw [hwritten, all_sent, hlines, replies_texts htexts, replies_noText hraw, List.append_nil]
  · rw [hended, hlines]
    exact ⟨raw, by simp, hraw⟩

/-- A blank line, a request in two pieces, a line that is no request, and one that is no text. -/
theorem run_answers_no_text :
    let node : Info := ⟨"Testnode", "mainnet", 1, 1, "0xd4", "0x0", "/é"⟩
    let pieces := [Utf8.encode " \r\n\x7b\"metho", Utf8.encode "d\":\"info\"\x7d\r\nx\n",
      [0xFF, Newline.lineFeed], Utf8.encode "x\n"]
    Line.all (run node .ws pieces).written =
        [sent (respond node .ws .info), sent (answer node .ws "x")] ∧
      (run node .ws pieces).ended = true ∧
      ∃ why, answer node .ws "x" = .error ("invalid request: " ++ why) := by
  intro node pieces
  obtain ⟨-, -, hends, -, hanswer⟩ := run_answers node .ws pieces
  obtain ⟨hwritten, hended⟩ := hends [" ", "\x7b\"method\":\"info\"\x7d", "x"]
    [Utf8.encode " \r\n", Utf8.encode "\x7b\"method\":\"info\"\x7d\r\n", Utf8.encode "x\n"]
    [Utf8.encode "x\n"] [0xFF, Newline.lineFeed] (by decide +kernel) (by decide +kernel)
    (noText_iff.2 ⟨_, rfl⟩)
  have hinfo : answer node .ws "\x7b\"method\":\"info\"\x7d" = respond node .ws .info :=
    (hanswer _ (by decide +kernel)).1 .info (by decide +kernel)
  have hlines : ([" ", "\x7b\"method\":\"info\"\x7d", "x"].map trim).filter
      (fun line => !line.isEmpty) = ["\x7b\"method\":\"info\"\x7d", "x"] := by decide +kernel
  have hmalformed : Json.decode Request.ofJson "x" = .error .malformed := by decide +kernel
  refine ⟨?_, hended, (hanswer "x" (by decide +kernel)).2 (by simp [hmalformed])⟩
  rw [hwritten, ← hinfo, answered, hlines]
  rfl

end DaemonDialogue.Node.Server
