import DaemonDialogue.Proofs.Text.Blank
import DaemonDialogue.Proofs.Text.Cut
import DaemonDialogue.Proofs.Text.Utf8
import DaemonDialogue.Stream.Line

/-!
# Lines one after the other

A line in front of a stream is its first line, and a text without controls is the content
of the line that is made of it.
-/

namespace DaemonDialogue.Line

theorem splitOnto_line (lines : List (List UInt8)) (current : List UInt8) {line : List UInt8}
    (rest : List UInt8) (h : Newline.lineFeed ∉ line) :
    splitOnto lines current (line ++ Newline.lineFeed :: rest) =
      splitOnto ((current.reverse ++ line ++ [Newline.lineFeed]) :: lines) [] rest := by
  induction line generalizing current with
  | nil => simp [splitOnto]
  | cons b line ih =>
    obtain ⟨hb, hline⟩ := not_or.1 (mt List.mem_cons.2 h)
    rw [List.cons_append, splitOnto, if_neg (Ne.symm hb), ih _ hline]
    simp

theorem splitOnto_eq (lines : List (List UInt8)) (current bytes : List UInt8) :
    splitOnto lines current bytes =
      (lines.reverse ++ (splitOnto [] current bytes).1, (splitOnto [] current bytes).2) := by
  induction bytes generalizing lines current with
  | nil => simp [splitOnto]
  | cons b rest ih =>
    rw [splitOnto, splitOnto]
    split_ifs
    · rw [ih ((b :: current).reverse :: lines), ih [(b :: current).reverse]]
      simp
    · exact ih lines (b :: current)

theorem split_line {line : List UInt8} (rest : List UInt8) (h : Newline.lineFeed ∉ line) :
    split (line ++ Newline.lineFeed :: rest) =
      ((line ++ [Newline.lineFeed]) :: (split rest).1, (split rest).2) := by
  rw [split, splitOnto_line [] [] rest h, splitOnto_eq]
  rfl

theorem split_of_notMem {text : List UInt8} (h : Newline.lineFeed ∉ text) :
    split text = ([], text) := by
  have hall : ∀ current, splitOnto [] current text = ([], current.reverse ++ text) := by
    induction text with
    | nil => simp [splitOnto]
    | cons b rest ih =>
      obtain ⟨hb, hrest⟩ := not_or.1 (mt List.mem_cons.2 h)
      intro current
      rw [splitOnto, if_neg (Ne.symm hb), ih hrest]
      simp
  exact hall []

theorem split_append {lines rest : List UInt8}
    (hlines : Cut.Whole Newline.lineFeed lines) (hrest : Newline.lineFeed ∉ rest) :
    split (lines ++ rest) = (Cut.pieces Newline.lineFeed lines, rest) := by
  induction lines using Cut.pieces_induction Newline.lineFeed with
  | last text hmark =>
    obtain rfl := hlines.eq_nil hmark
    exact split_of_notMem hrest
  | mark_ first others hfirst ih =>
    rw [List.append_assoc, List.cons_append, split_line _ hfirst,
      ih ((Cut.whole_append_mark _ _).1 hlines), Cut.pieces_mark hfirst]

theorem exists_split (bytes : List UInt8) :
    ∃ lines rest, bytes = lines ++ rest ∧
      Cut.Whole Newline.lineFeed lines ∧ Newline.lineFeed ∉ rest := by
  induction bytes using Cut.pieces_induction Newline.lineFeed with
  | last text hmark => exact ⟨[], text, rfl, by simp [Cut.Whole], hmark⟩
  | mark_ first others hfirst ih =>
    obtain ⟨lines, rest, rfl, hlines, hrest⟩ := ih
    exact ⟨first ++ Newline.lineFeed :: lines, rest, by simp,
      (Cut.whole_append_mark _ _).2 hlines, hrest⟩

theorem notMem_split (bytes : List UInt8) : Newline.lineFeed ∉ (split bytes).2 := by
  obtain ⟨lines, rest, rfl, hlines, hrest⟩ := exists_split bytes
  rwa [split_append hlines hrest]

theorem all_eq_pieces (bytes : List UInt8) : all bytes = Cut.pieces Newline.lineFeed bytes := by
  obtain ⟨lines, rest, rfl, hlines, hrest⟩ := exists_split bytes
  rw [all, split_append hlines hrest, Cut.pieces_append rest hlines]
  cases rest with
  | nil => simp [Cut.pieces]
  | cons b rest => rw [Cut.pieces_of_notMem hrest (by simp)]; rfl

theorem all_line {line : List UInt8} (rest : List UInt8) (h : Newline.lineFeed ∉ line) :
    all (line ++ Newline.lineFeed :: rest) = (line ++ [Newline.lineFeed]) :: all rest := by
  rw [all_eq_pieces, Cut.pieces_mark h, all_eq_pieces]

theorem split_split (before after : List UInt8) :
    split (before ++ after) =
      ((split before).1 ++ (split ((split before).2 ++ after)).1,
        (split ((split before).2 ++ after)).2) := by
  induction before using Cut.pieces_induction Newline.lineFeed with
  | last text hmark => simp [split_of_notMem hmark]
  | mark_ first others hfirst ih =>
    rw [List.append_assoc, List.cons_append, split_line _ hfirst, split_line _ hfirst, ih]
    rfl

theorem content_line {line : List UInt8} (h : line.getLast? ≠ some Newline.carriageReturn) :
    content (line ++ [Newline.lineFeed]) = line := by
  cases hline : line.reverse with
  | nil => simp_all [content]
  | cons c before =>
    obtain rfl : line = (c :: before).reverse := by rw [← hline, List.reverse_reverse]
    have hc : c ≠ Newline.carriageReturn := by simpa using h
    simp [content, hc]

theorem lineFeed_notMem {text : String} (h : Visible text.toList) :
    Newline.lineFeed ∉ Utf8.encode text := fun hmem =>
  absurd (Utf8.le_of_mem_encodeChars h _ hmem) (by decide)

theorem getLast?_ne_carriageReturn {text : String} (h : Visible text.toList) :
    (Utf8.encode text).getLast? ≠ some Newline.carriageReturn := fun hlast =>
  absurd (Utf8.le_of_mem_encodeChars h _ (List.mem_of_getLast? hlast)) (by decide)

theorem text_line {text : String} (h : Visible text.toList) :
    Line.text (Utf8.encode text ++ [Newline.lineFeed]) = .ok text := by
  rw [Line.text, content_line (getLast?_ne_carriageReturn h), Utf8.strictDecode_encode]

theorem all_texts {texts : List String} (h : ∀ text ∈ texts, Visible text.toList) :
    all (texts.flatMap fun text => Utf8.encode text ++ [Newline.lineFeed]) =
      texts.map fun text => Utf8.encode text ++ [Newline.lineFeed] := by
  induction texts with
  | nil => rfl
  | cons text texts ih =>
    rw [List.flatMap_cons, List.append_assoc, List.singleton_append,
      all_line _ (lineFeed_notMem (h text List.mem_cons_self)),
      ih fun other hother => h other (List.mem_cons_of_mem _ hother)]
    rfl

/-! ## Lines of a text -/

theorem lineFeed_notMem_encodeChars {text : List Char} (h : '\n' ∉ text) :
    Newline.lineFeed ∉ Utf8.encodeChars text := by
  intro hmem
  obtain ⟨c, hc, hline⟩ := Utf8.exists_of_mem_encodeChars hmem (by decide)
  obtain rfl : c = '\n' := Char.toNat_inj.1 hline
  exact h hc

theorem pieces_encodeChars (text : List Char) :
    Cut.pieces Newline.lineFeed (Utf8.encodeChars text) =
      (Cut.pieces '\n' text).map Utf8.encodeChars := by
  induction text using Cut.pieces_induction '\n' with
  | last text htext =>
    by_cases hne : text = []
    · subst hne
      rfl
    · have hbytes : Utf8.encodeChars text ≠ [] := mt Utf8.encodeChars_eq_nil.1 hne
      rw [Cut.pieces_of_notMem htext hne,
        Cut.pieces_of_notMem (lineFeed_notMem_encodeChars htext) hbytes, List.map_singleton]
  | mark_ before after hbefore ih =>
    have hmark : Utf8.encodeChars (before ++ '\n' :: after) =
        Utf8.encodeChars before ++ Newline.lineFeed :: Utf8.encodeChars after := by
      rw [Utf8.encodeChars_append]
      rfl
    rw [hmark, Cut.pieces_mark (lineFeed_notMem_encodeChars hbefore), ih, Cut.pieces_mark hbefore,
      List.map_cons, Utf8.encodeChars_append]
    rfl

theorem content_of_notMem {line : List UInt8} (h : Newline.lineFeed ∉ line) :
    content line = line := by
  unfold content
  split
  · next b rest hline =>
    have hb : b ∈ line := List.mem_reverse.1 (by simp [hline])
    have hne : b ≠ Newline.lineFeed := by
      rintro rfl
      exact h hb
    rw [if_neg hne]
  · next hline => simpa using hline.symm

theorem content_crlf (line : List UInt8) :
    content (line ++ [Newline.carriageReturn, Newline.lineFeed]) = line := by
  simp [content]

theorem getLast?_encodeChars_ne {text : List Char} {last : Char} (h : last ≠ '\r') :
    (Utf8.encodeChars (text ++ [last])).getLast? ≠ some Newline.carriageReturn := by
  intro hlast
  have hbytes : Utf8.encodeChars [last] ≠ [] := mt Utf8.encodeChars_eq_nil.1 (by simp)
  rw [Utf8.encodeChars_append, List.getLast?_append_of_ne_nil _ hbytes] at hlast
  obtain ⟨c, hc, hreturn⟩ := Utf8.exists_of_mem_encodeChars (List.mem_of_getLast? hlast) (by decide)
  obtain rfl := List.mem_singleton.1 hc
  exact h (Char.toNat_inj.1 hreturn)

theorem exists_text_of_line (before : List Char) :
    ∃ line, Line.text (Utf8.encodeChars (before ++ ['\n'])) = .ok line ∧
      trim line = String.ofList (Blank.trimChars (before ++ ['\n'])) := by
  have htrim : Blank.trimChars (before ++ ['\n']) = Blank.trimChars before :=
    Blank.trimChars_concat before (by decide)
  have hbytes : Utf8.encodeChars (before ++ ['\n']) =
      Utf8.encodeChars before ++ [Newline.lineFeed] := by
    rw [Utf8.encodeChars_append]
    rfl
  rcases List.eq_nil_or_concat before with rfl | ⟨first, last, rfl⟩
  · exact ⟨"", by decide, by decide⟩
  · rw [List.concat_eq_append] at htrim hbytes ⊢
    rw [htrim, hbytes]
    by_cases hlast : last = '\r'
    · subst hlast
      have hreturn : Utf8.encodeChars (first ++ ['\r']) ++ [Newline.lineFeed] =
          Utf8.encodeChars first ++ [Newline.carriageReturn, Newline.lineFeed] := by
        rw [Utf8.encodeChars_append, List.append_assoc]
        rfl
      refine ⟨String.ofList first, ?_, ?_⟩
      · rw [hreturn, Line.text, content_crlf, Utf8.strictDecode_encodeChars]
      · rw [trim, String.toList_ofList, Blank.trimChars_concat first (by decide)]
    · refine ⟨String.ofList (first ++ [last]), ?_, ?_⟩
      · rw [Line.text, content_line (getLast?_encodeChars_ne hlast),
          Utf8.strictDecode_encodeChars]
      · rw [trim, String.toList_ofList]

theorem exists_text_of_mem_pieces {text piece : List Char} (h : piece ∈ Cut.pieces '\n' text) :
    ∃ line, Line.text (Utf8.encodeChars piece) = .ok line ∧
      trim line = String.ofList (Blank.trimChars piece) := by
  obtain ⟨before, hbefore, rfl | rfl⟩ := Cut.of_mem_pieces h
  · refine ⟨String.ofList piece, ?_, ?_⟩
    · rw [Line.text, content_of_notMem (lineFeed_notMem_encodeChars hbefore),
        Utf8.strictDecode_encodeChars]
    · rw [trim, String.toList_ofList]
  · exact exists_text_of_line before

theorem notMem_trimChars_of_mem_pieces {text piece : List Char} (h : piece ∈ Cut.pieces '\n' text) :
    '\n' ∉ Blank.trimChars piece := by
  obtain ⟨before, hbefore, rfl | rfl⟩ := Cut.of_mem_pieces h
  · exact fun hmem => hbefore (Blank.subset_trimChars _ hmem)
  · rw [Blank.trimChars_concat before (by decide)]
    exact fun hmem => hbefore (Blank.subset_trimChars _ hmem)

end DaemonDialogue.Line
