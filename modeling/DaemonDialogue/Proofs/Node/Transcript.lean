import DaemonDialogue.Node.Console
import DaemonDialogue.Proofs.Json.Layout
import DaemonDialogue.Proofs.Stream.Line
import DaemonDialogue.Proofs.Text.Blank

/-!
# Transcripts of consoles

What a console writes can be read back. It answers every line that is not blank with one line of
its own, which begins with no invitation, and none of its answers has the end of a line in it,
whatever the line or the node holds.
-/

namespace DaemonDialogue

namespace Node.Console

/-- The lines of a text as a console takes them, without blanks around them. -/
def typed (text : String) : List String :=
  (Cut.pieces '\n' text.toList).map fun line => String.ofList (Blank.trimChars line)

/-- The lines of a text up to the one that ends a session. -/
def entered (text : String) : List String := (typed text).takeWhile (· ≠ "exit")

def evaluated (text : String) : List String := (entered text).filter (· ≠ "")

def answer (node : Info) (line : String) : String := show_ (evaluate node line)

/-- What a console writes for a line: an invitation, and the answer if the line is not blank. -/
def written (node : Info) (line : String) : String :=
  if line = "" then prompt else prompt ++ answer node line ++ "\n"

/-- A line of output without the invitations before it. -/
def withoutPrompts : List Char → List Char
  | '>' :: ' ' :: rest => withoutPrompts rest
  | text => text

/-- The answers in the output of a console: its lines but the last, without the invitations before
and the end behind them. -/
def answersIn (output : String) : List String :=
  (Cut.pieces '\n' output.toList).dropLast.map fun line =>
    String.ofList (withoutPrompts line.dropLast)

variable {node : Info}

/-! ## Answers -/

/-- What an answer is: a message about the line, a word for no value, a text or a number. -/
theorem answer_cases (node : Info) (line : String) :
    answer node line = "ReferenceError: " ++ trim line ++ " is not defined" ∨
      answer node line = "undefined" ∨ (∃ text, answer node line = (Json.string text).compact) ∨
      ∃ n : Nat, answer node line = (Json.integer n).compact := by
  have hvalue : valueOf? node (bare line) = none ∨ valueOf? node (bare line) = some .null ∨
      (∃ text, valueOf? node (bare line) = some (.string text)) ∨
      ∃ n : Nat, valueOf? node (bare line) = some (.integer n) := by
    unfold valueOf?
    split
    all_goals simp
    exact ⟨0, rfl⟩
  unfold answer evaluate
  rcases hvalue with h | h | ⟨text, h⟩ | ⟨n, h⟩
  all_goals rw [h]
  · exact .inl rfl
  · exact .inr (.inl rfl)
  · exact .inr (.inr (.inl ⟨text, rfl⟩))
  · exact .inr (.inr (.inr ⟨n, rfl⟩))

theorem lineFeed_notMem_answer (node : Info) {line : String} (h : '\n' ∉ line.toList) :
    '\n' ∉ (answer node line).toList := by
  have hvisible : ∀ value : Json, '\n' ∉ value.compact.toList := fun value hmem =>
    absurd (Json.visible_compact value _ hmem) (by decide)
  rcases answer_cases node line with hanswer | hanswer | ⟨text, hanswer⟩ | ⟨n, hanswer⟩
  all_goals rw [hanswer]
  · have htrim : '\n' ∉ (trim line).toList := by
      rw [trim, String.toList_ofList]
      exact fun hmem => h (Blank.subset_trimChars _ hmem)
    simp [htrim]
  · decide
  · exact hvisible _
  · exact hvisible _

theorem withoutPrompts_answer (node : Info) (line : String) :
    withoutPrompts (answer node line).toList = (answer node line).toList := by
  have hself : ∀ {text : List Char}, text.head? ≠ some '>' → withoutPrompts text = text := by
    intro text hhead
    unfold withoutPrompts
    split
    · simp at hhead
    · rfl
  apply hself
  rcases answer_cases node line with hanswer | hanswer | ⟨text, hanswer⟩ | ⟨n, hanswer⟩
  all_goals rw [hanswer]
  · simp
  · decide
  · simp [Json.compact, Json.chars, Json.stringChars]
  · have hchars : (Json.integer n).compact.toList = Nat.toDigits 10 n := by
      simp [Json.compact, Json.chars, Json.integerChars]
    rw [hchars]
    intro hhead
    exact absurd (Numeral.isDigit_of_mem_toDigits (List.mem_of_mem_head? hhead)) (by decide)

/-! ## The lines of a session -/

theorem converse_texts {lines : List (List UInt8)} {texts : List String}
    (h : List.Forall₂ (fun raw text => ∃ line, Line.text raw = .ok line ∧ trim line = text) lines
      texts) (output : String) :
    converse (ofNode node) true output () lines =
      ⟨output ++ String.join ((texts.takeWhile (· ≠ "exit")).map (written node)) ++ prompt ++ "\n",
        (), .finished⟩ := by
  induction h generalizing output with
  | nil => simp [converse]
  | @cons raw text lines texts hline _ ih =>
    obtain ⟨line, htext, rfl⟩ := hline
    rw [converse, htext]
    dsimp only
    by_cases hexit : trim line = "exit"
    · simp [hexit]
    · rw [if_neg hexit, List.takeWhile_cons_of_pos (by simpa using hexit), List.map_cons,
        String.join_cons]
      by_cases hblank : trim line = ""
      · have hwritten : written node (trim line) = prompt := if_pos hblank
        rw [if_pos (by simp [hblank]), ih, hwritten]
        simp only [String.append_assoc]
      · have hwritten : written node (trim line) = prompt ++ answer node (trim line) ++ "\n" :=
          if_neg hblank
        have hevaluator : ofNode node (trim line) () = (.ok (evaluate node (trim line)), ()) := rfl
        rw [if_neg (by simpa using hblank), hevaluator]
        dsimp only
        rw [ih, hwritten, answer]
        simp only [String.append_assoc]

theorem answersIn_last {line : String} (h : '\n' ∉ line.toList) :
    answersIn (line ++ "\n") = [] := by
  have hpieces := Cut.pieces_mark h []
  simp [answersIn, hpieces, Cut.pieces]

/-- The answer in the first line of an output, and those in the lines behind it. -/
theorem answersIn_line {line more : String} (h : '\n' ∉ line.toList) (hmore : more ≠ "") :
    answersIn (line ++ "\n" ++ more) =
      String.ofList (withoutPrompts line.toList) :: answersIn more := by
  have hpieces := Cut.pieces_mark h more.toList
  have hrest : Cut.pieces '\n' more.toList ≠ [] :=
    Cut.pieces_ne_nil _ fun hnil => hmore (String.toList_eq_nil_iff.1 hnil)
  simp [answersIn, hpieces, List.dropLast_cons_of_ne_nil hrest]

theorem lineFeed_notMem_prompt : '\n' ∉ prompt.toList := by decide

/-- The answers are read back from the output, whatever invitations stand before. -/
theorem answers_written (node : Info) {lines : List String}
    (h : ∀ line ∈ lines, '\n' ∉ line.toList) (before : String) (hbefore : '\n' ∉ before.toList)
    (hprompts : ∀ rest, withoutPrompts (before.toList ++ rest) = withoutPrompts rest) :
    answersIn (before ++ String.join (lines.map (written node)) ++ prompt ++ "\n") =
      (lines.filter (· ≠ "")).map (answer node) := by
  induction lines generalizing before with
  | nil =>
    apply answersIn_last
    simp [lineFeed_notMem_prompt, hbefore]
  | cons line rest ih =>
    obtain ⟨hline, hrest⟩ := List.forall_mem_cons.1 h
    have hprompt : '\n' ∉ (before ++ prompt).toList := by
      simp [lineFeed_notMem_prompt, hbefore]
    have hsame : ∀ rest, withoutPrompts ((before ++ prompt).toList ++ rest) =
        withoutPrompts rest := by
      intro rest
      rw [String.toList_append, List.append_assoc, hprompts]
      rfl
    rw [List.map_cons, String.join_cons]
    by_cases hblank : line = ""
    · have hwritten : written node line = prompt := if_pos hblank
      rw [hwritten, List.filter_cons_of_neg (by simp [hblank]), ← ih hrest _ hprompt hsame]
      simp only [String.append_assoc]
    · have hwritten : written node line = prompt ++ answer node line ++ "\n" := if_neg hblank
      have hread := ih hrest "" (by simp) fun _ => rfl
      have hfirst : '\n' ∉ (before ++ prompt ++ answer node line).toList := by
        rw [String.toList_append, List.mem_append, not_or]
        exact ⟨hprompt, lineFeed_notMem_answer node hline⟩
      have hanswer : withoutPrompts (before ++ prompt ++ answer node line).toList =
          (answer node line).toList := by
        rw [String.toList_append, hsame, withoutPrompts_answer]
      rw [String.empty_append] at hread
      -- What the answer is does not matter any more, only that it is one line.
      generalize hreply : answer node line = reply at hwritten hfirst hanswer ⊢
      have hsplit : before ++ (written node line ++ String.join (rest.map (written node))) ++
          prompt ++ "\n" = before ++ prompt ++ reply ++ "\n" ++
            (String.join (rest.map (written node)) ++ prompt ++ "\n") := by
        simp only [hwritten, String.append_assoc]
      have hmore : String.join (rest.map (written node)) ++ prompt ++ "\n" ≠ "" := by
        simp [prompt]
      rw [hsplit, answersIn_line hfirst hmore, hread, hanswer, String.ofList_toList,
        List.filter_cons_of_pos (by simpa using hblank), List.map_cons, hreply]

theorem run_text (node : Info) (text : String) :
    run (ofNode node) ⟨Utf8.encode text, true⟩ () =
      ⟨String.join ((entered text).map (written node)) ++ prompt ++ "\n", (), .finished⟩ := by
  have hlines : Input.lines ⟨Utf8.encode text, true⟩ =
      (Cut.pieces '\n' text.toList).map Utf8.encodeChars := by
    rw [Input.lines, if_pos rfl, Line.all_eq_pieces, Utf8.encode, Line.pieces_encodeChars]
  have htexts : List.Forall₂ (fun raw text => ∃ line, Line.text raw = .ok line ∧ trim line = text)
      ((Cut.pieces '\n' text.toList).map Utf8.encodeChars) (typed text) := by
    rw [typed, List.forall₂_map_left_iff, List.forall₂_map_right_iff, List.forall₂_same]
    exact fun piece hpiece => Line.exists_text_of_mem_pieces hpiece
  rw [run, hlines, converse_texts htexts, String.empty_append]
  rfl

theorem lineFeed_notMem_entered {text line : String} (h : line ∈ entered text) :
    '\n' ∉ line.toList := by
  obtain ⟨piece, hpiece, rfl⟩ := List.mem_map.1 (List.takeWhile_subset _ h)
  rw [String.toList_ofList]
  exact Line.notMem_trimChars_of_mem_pieces hpiece

theorem entered_of_exit {text : String} {before rest : List String}
    (h : typed text = before ++ "exit" :: rest) : entered text = before.takeWhile (· ≠ "exit") := by
  rw [entered, h]
  clear h
  induction before with
  | nil => rfl
  | cons line before ih =>
    by_cases hline : line = "exit"
    · simp [hline]
    · simpa [hline] using ih

/-- A console writes an invitation for every line up to the one that ends the session, and behind
it the answer to the line unless that is blank, on a line of its own. So the answers are read back
from what it writes, and depend on the lines alone, one by one, up to the last that counts. -/
theorem transcript_reads_back (node : Info) (text : String) :
    let session := run (ofNode node) ⟨Utf8.encode text, true⟩ ()
    session.output = String.join ((entered text).map (written node)) ++ prompt ++ "\n" ∧
      session.ending = .finished ∧
      (∀ line ∈ entered text, '\n' ∉ (answer node line).toList) ∧
      answersIn session.output = (evaluated text).map (answer node) ∧
      ∀ (other : String) (before rest rest' : List String),
        typed text = before ++ "exit" :: rest → typed other = before ++ "exit" :: rest' →
          (run (ofNode node) ⟨Utf8.encode other, true⟩ ()).output = session.output := by
  intro session
  have hsession : session = _ := run_text node text
  rw [hsession]
  refine ⟨rfl, rfl, fun line hline => ?_, ?_, fun other before rest rest' htext hother => ?_⟩
  · exact lineFeed_notMem_answer node (lineFeed_notMem_entered hline)
  · have hlines : ∀ line ∈ entered text, '\n' ∉ line.toList :=
      fun _ hline => lineFeed_notMem_entered hline
    have hanswers := answers_written node hlines "" (by simp) fun _ => rfl
    rwa [String.empty_append] at hanswers
  · rw [run_text, entered_of_exit htext, entered_of_exit hother]

/-- A session of a value, a blank line and a line that makes no sense, left before the end of two
different texts. -/
theorem transcript_reads_back_ended_early :
    answersIn (run (ofNode ⟨"Testnode", "mainnet", 1, 1, "0xd4", "0x0", "/\n> é"⟩)
        ⟨Utf8.encode "admin.datadir;\r\n \n> \t\"é\n exit\n\nfoo", true⟩ ()).output =
      ["\"/\\n> é\"", "ReferenceError: > \t\"é is not defined"] ∧
    (run (ofNode ⟨"Testnode", "mainnet", 1, 1, "0xd4", "0x0", "/\n> é"⟩)
        ⟨Utf8.encode "admin.datadir;\n\n> \t\"é\nexit", true⟩ ()).output =
      (run (ofNode ⟨"Testnode", "mainnet", 1, 1, "0xd4", "0x0", "/\n> é"⟩)
        ⟨Utf8.encode "admin.datadir;\r\n \n> \t\"é\n exit\n\nfoo", true⟩ ()).output := by
  have hread := transcript_reads_back ⟨"Testnode", "mainnet", 1, 1, "0xd4", "0x0", "/\n> é"⟩
    "admin.datadir;\r\n \n> \t\"é\n exit\n\nfoo"
  obtain ⟨-, -, -, hanswers, hsame⟩ := hread
  refine ⟨hanswers.trans (by decide +kernel), ?_⟩
  exact hsame _ ["admin.datadir;", "", "> \t\"é"] ["", "foo"] [] (by decide +kernel)
    (by decide +kernel)

end Node.Console
end DaemonDialogue
