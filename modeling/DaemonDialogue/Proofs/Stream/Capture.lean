import DaemonDialogue.Proofs.Log.File
import DaemonDialogue.Proofs.Stream.Line
import DaemonDialogue.Proofs.Stream.Writer
import DaemonDialogue.Proofs.Text.Place

/-!
# The two records of an output

A capture leaves the bytes of an output in a buffer and its lines in a log. Both are made piece
by piece, but neither shows how the output was cut: the log has the lines of the text that the
buffer has, since a stream can be read as text line by line.
-/

namespace DaemonDialogue

namespace Utf8

theorem pieces_decodeChars (bytes : List UInt8) :
    Cut.pieces '\n' (decodeChars bytes) =
      (Cut.pieces Newline.lineFeed bytes).map decodeChars := by
  have hmark : ∀ {text : List UInt8}, Newline.lineFeed ∉ text → '\n' ∉ decodeChars text := by
    intro text htext hmem
    obtain ⟨b, hb, hline⟩ := exists_of_mem_decodeChars hmem (by decide)
    obtain rfl : b = Newline.lineFeed := UInt8.toNat_inj.1 hline
    exact htext hb
  induction bytes using Cut.pieces_induction Newline.lineFeed with
  | last text htext =>
    by_cases hne : text = []
    · subst hne
      rfl
    · rw [Cut.pieces_of_notMem htext hne, Cut.pieces_of_notMem (hmark htext)
        (decodeChars_ne_nil hne), List.map_singleton]
  | mark_ before after hbefore ih =>
    have hascii : Newline.lineFeed.toNat < 0x80 := by decide
    have hchar : Char.ofNat Newline.lineFeed.toNat = '\n' := rfl
    rw [decodeChars_append_ascii before after hascii, hchar, Cut.pieces_mark (hmark hbefore), ih,
      Cut.pieces_mark hbefore, List.map_cons, decodeChars_append_ascii before [] hascii, hchar]
    rfl

end Utf8

namespace Buffer

@[simp] theorem append_nil (b : Buffer) : b.append [] = b := by
  simp [append]

theorem append_append (b : Buffer) (piece more : List UInt8) :
    (b.append piece).append more = b.append (piece ++ more) := by
  have hwritten : b.written ++ piece ++ more = b.written ++ (piece ++ more) :=
    Array.toList_inj.1 (by simp)
  simp [append, hwritten]

end Buffer

namespace Capture

open Log (Entry)

/-- All bytes that a capture reads before its stream ends or fails. -/
def contents (reads : List ReadResult) : List UInt8 := (piecesRead reads).flatten

/-- Why a stream could not be read to its end, if it could not. -/
def failure? : List ReadResult → Option String
  | [] => none
  | .bytes [] :: _ => none
  | .bytes _ :: rest => failure? rest
  | .interrupted :: rest => failure? rest
  | .failed message :: _ => some message

/-- Logs the lines of a stream, then why it could not be read further, then what is left behind
the lines. -/
def record (source : CaptureSource) (failure : Option String)
    (parts : List (List UInt8) × List UInt8) (l : Logger) : Logger :=
  let l := parts.1.foldl (mirror source) l
  let l := failure.elim l fun message => l.debug (stopped source message)
  if parts.2.isEmpty then l else mirror source l parts.2

theorem record_split (source : CaptureSource) (failure : Option String)
    (before after : List UInt8) (l : Logger) :
    record source failure (Line.split (before ++ after)) l =
      record source failure (Line.split ((Line.split before).2 ++ after))
        ((Line.split before).1.foldl (mirror source) l) := by
  rw [record, record, Line.split_split, List.foldl_append]

/-- What a capture leaves depends on all bytes and on the end alone. -/
theorem run_eq (source : CaptureSource) (c : Capture) (reads : List ReadResult)
    (h : Newline.lineFeed ∉ c.pending) :
    run source c reads =
      { buffer := (c.buffer.append (contents reads)).close
        pending := []
        logger := record source (failure? reads) (Line.split (c.pending ++ contents reads))
          c.logger } := by
  fun_induction run source c reads with
  | case1 c =>
    simp [contents, piecesRead, failure?, record, finish, Line.split_of_notMem h]
  | case2 c rest =>
    simp [contents, piecesRead, failure?, record, finish, Line.split_of_notMem h]
  | case3 c piece rest hne ih =>
    rw [ih (Line.notMem_split _)]
    have hcontents : contents (.bytes piece :: rest) = piece ++ contents rest := by
      rw [contents, piecesRead, List.flatten_cons, ← contents]
      exact hne
    rw [hcontents, ← Buffer.append_append, ← List.append_assoc, failure?,
      record_split source _ (c.pending ++ piece)]
    · rfl
    · exact hne
  | case4 c rest ih => exact ih h
  | case5 c message rest =>
    simp [contents, piecesRead, failure?, record, finish, Line.split_of_notMem h]

def lineEntry (source : CaptureSource) (l : Logger) (raw : List UInt8) : Entry :=
  l.stamp .debug (.process source.name source.pid source.channel) (lineText raw) []

/-- The entry about a stream that cannot be read further. -/
def stopEntry (source : CaptureSource) (l : Logger) (message : String) : Entry :=
  l.stamp .debug .harness (stopped source message) []

variable {l : Logger}

theorem adds_mirror (source : CaptureSource) (h : l.keeps .debug = true) (raw : List UInt8) :
    l.Adds [lineEntry source l raw] (mirror source l raw) :=
  Logger.adds_log h _ _ _

theorem adds_lines (source : CaptureSource) (h : l.keeps .debug = true)
    (lines : List (List UInt8)) :
    l.Adds (lines.map (lineEntry source l)) (lines.foldl (mirror source) l) := by
  induction lines generalizing l with
  | nil => exact .refl l
  | cons raw rest ih =>
    have hfirst := adds_mirror source h raw
    have hrest := ih (l := mirror source l raw) (by rw [hfirst.keeps, h])
    have hsame : lineEntry source (mirror source l raw) = lineEntry source l :=
      funext fun _ => hfirst.stamp _ _ _ _
    rw [hsame] at hrest
    exact hfirst.trans hrest

/-- The entries of a stream that is captured: of its lines, of its failure if it fails, and of what
is left behind the lines. -/
theorem adds_record (source : CaptureSource) (h : l.keeps .debug = true) (failure : Option String)
    (lines : List (List UInt8)) {rest : List UInt8} (hrest : Newline.lineFeed ∉ rest) :
    l.Adds (lines.map (lineEntry source l) ++ failure.toList.map (stopEntry source l) ++
      (Cut.pieces Newline.lineFeed rest).map (lineEntry source l))
      (record source failure (lines, rest) l) := by
  have hlines := adds_lines source h lines
  have hstop : l.Adds (lines.map (lineEntry source l) ++ failure.toList.map (stopEntry source l))
      (failure.elim (lines.foldl (mirror source) l) fun message =>
        (lines.foldl (mirror source) l).debug (stopped source message)) := by
    cases failure with
    | none => simpa using hlines
    | some message =>
      have hevent := Logger.adds_log (by rw [hlines.keeps, h]) .harness (stopped source message) []
      rw [hlines.stamp] at hevent
      exact hlines.trans hevent
  rw [record]
  by_cases hempty : rest = []
  · subst hempty
    simpa [Cut.pieces] using hstop
  · have hrestEntry := adds_mirror source (by rw [hstop.keeps, h]) rest
    have hsame : lineEntry source (failure.elim (lines.foldl (mirror source) l) fun message =>
        (lines.foldl (mirror source) l).debug (stopped source message)) rest =
        lineEntry source l rest := hstop.stamp _ _ _ _
    rw [hsame] at hrestEntry
    rw [Cut.pieces_of_notMem hrest hempty]
    simpa [hempty] using hstop.trans hrestEntry

theorem isOutputOf_lineEntry (source : CaptureSource) (l : Logger) (raw : List UInt8) :
    Logger.isOutputOf source.name source.channel (lineEntry source l raw) = true := by
  simp [Logger.isOutputOf, lineEntry, Logger.stamp]

theorem isOutputOf_stopEntry (source : CaptureSource) (l : Logger) (message : String) :
    Logger.isOutputOf source.name source.channel (stopEntry source l message) = false := rfl

theorem filter_output (source : CaptureSource) (l : Logger) (lines rest : List (List UInt8))
    (failure : Option String) :
    (lines.map (lineEntry source l) ++ failure.toList.map (stopEntry source l) ++
        rest.map (lineEntry source l)).filter (Logger.isOutputOf source.name source.channel) =
      (lines ++ rest).map (lineEntry source l) := by
  have hlines : ∀ raws : List (List UInt8),
      (raws.map (lineEntry source l)).filter (Logger.isOutputOf source.name source.channel) =
        raws.map (lineEntry source l) := by
    intro raws
    rw [List.filter_eq_self]
    simp [isOutputOf_lineEntry]
  have hstop : (failure.toList.map (stopEntry source l)).filter
      (Logger.isOutputOf source.name source.channel) = [] := by
    cases failure <;> simp [isOutputOf_stopEntry]
  rw [List.filter_append, List.filter_append, hlines, hlines, hstop, List.append_nil,
    List.map_append]

end Capture
end DaemonDialogue
