import DaemonDialogue.Proofs.Stream.Occurrence
import DaemonDialogue.Proofs.Stream.Readers
import DaemonDialogue.Proofs.Text.Cut
import DaemonDialogue.Proofs.Text.Place

/-!
# Ranges that read like a text

A search for a text goes over bytes, but a range that reads like the text is a text itself, in
whatever stream it stands: it differs from the one that was looked for in the carriage returns of
its line ends alone.
-/

namespace DaemonDialogue

namespace Utf8

/-- The bytes of a text on both sides of a character of ASCII are those of texts. -/
theorem encodeChars_split {text : List Char} {before after : List UInt8} {b : UInt8}
    (hb : b.toNat < 0x80) (h : encodeChars text = before ++ b :: after) :
    encodeChars (decodeChars before) = before ∧ encodeChars (decodeChars after) = after := by
  have hread : text = decodeChars before ++ Char.ofNat b.toNat :: decodeChars after := by
    rw [← decodeChars_append_ascii before after hb, ← h, decodeChars_encodeChars]
  have hbytes : encodeChars (decodeChars before) ++ b :: encodeChars (decodeChars after) =
      before ++ b :: after := by
    rw [← h, hread, encodeChars_append, encodeChars_cons, utf8EncodeChar_ascii hb]
    rfl
  have hbefore := length_le_decodeChars before
  have hafter := length_le_decodeChars after
  have hlength := congrArg List.length hbytes
  rw [List.length_append, List.length_append, List.length_cons, List.length_cons] at hlength
  obtain ⟨hfirst, hrest⟩ := List.append_inj hbytes (by omega)
  exact ⟨hfirst, (List.cons.inj hrest).2⟩

end Utf8

namespace Newline

open Utf8 (encodeChars decodeChars)

/-! ## Line ends of texts -/

/-- A text with a line feed for every carriage return and line feed. -/
def unified (text : String) : String := Cut.replace "\r\n" "\n" text

theorem collapse_append {before : List UInt8} (h : carriageReturn ∉ before) (after : List UInt8) :
    collapse (before ++ after) = before ++ collapse after := by
  induction before with
  | nil => rfl
  | cons a before ih =>
    obtain ⟨ha, hbefore⟩ := not_or.1 (mt List.mem_cons.2 h)
    rw [List.cons_append, collapse_cons fun hcrlf => ha hcrlf.1.symm, ih hbefore, List.cons_append]

/-- A character that begins no line end of two bytes stays when line ends are collapsed. -/
theorem collapse_encodeChars_cons {c : Char} {rest : List Char}
    (h : ¬['\r', '\n'] <+: c :: rest) :
    collapse (encodeChars (c :: rest)) =
      String.utf8EncodeChar c ++ collapse (encodeChars rest) := by
  rw [Utf8.encodeChars_cons]
  by_cases hc : c = '\r'
  · subst hc
    have hhead : (encodeChars rest).head? ≠ some lineFeed := by
      intro hhead
      have hline : rest.head? = some '\n' :=
        Utf8.head?_of_encodeChars (by decide) (by decide) hhead
      obtain ⟨after, rfl⟩ := List.head?_eq_some_iff.1 hline
      exact h ⟨after, rfl⟩
    have hchar : String.utf8EncodeChar '\r' = [carriageReturn] := rfl
    rw [hchar, List.singleton_append, List.singleton_append,
      collapse_cons fun hcrlf => hhead hcrlf.2]
  · have hmem : carriageReturn ∉ String.utf8EncodeChar c := by
      intro hmem
      have hvalue := Utf8.toNat_of_mem_utf8EncodeChar hmem (by decide)
      exact hc (Char.toNat_inj.1 hvalue)
    rw [collapse_append hmem]

/-- The bytes of a text that is unified are those of the text with their line ends collapsed. -/
theorem encodeChars_replaceWithin (fuel : Nat) (text : List Char) (h : text.length < fuel) :
    encodeChars (Cut.replaceWithin ['\r', '\n'] ['\n'] fuel text) = collapse (encodeChars text) := by
  induction fuel generalizing text with
  | zero => omega
  | succ fuel ih =>
    cases text with
    | nil => rfl
    | cons c rest =>
      rw [List.length_cons] at h
      rw [Cut.replaceWithin]
      cases hbehind : Cut.behind? ['\r', '\n'] (c :: rest) with
      | some after =>
        have htext := Cut.behind?_eq_some_iff.1 hbehind
        obtain ⟨rfl, rfl⟩ := List.cons.inj htext
        have hafter : after.length < fuel := by
          simp at h
          omega
        change lineFeed :: encodeChars (Cut.replaceWithin _ _ fuel after) =
          collapse (carriageReturn :: lineFeed :: encodeChars after)
        rw [ih after hafter, collapse_crlf]
      | none =>
        dsimp only
        rw [Utf8.encodeChars_cons, ih rest (by omega),
          collapse_encodeChars_cons (Cut.behind?_eq_none_iff.1 hbehind)]

theorem encode_unified (text : String) :
    Utf8.encode (unified text) = collapse (Utf8.encode text) := by
  rw [Utf8.encode, unified, Cut.replace, String.toList_ofList]
  exact encodeChars_replaceWithin _ _ (Nat.lt_succ_self _)

/-- Replacing the line ends of a text takes nothing but carriage returns from it. -/
theorem filter_replaceWithin (fuel : Nat) (text : List Char) :
    (Cut.replaceWithin ['\r', '\n'] ['\n'] fuel text).filter (· ≠ '\r') =
      text.filter (· ≠ '\r') := by
  induction fuel generalizing text with
  | zero => rfl
  | succ fuel ih =>
    cases text with
    | nil => rfl
    | cons c rest =>
      rw [Cut.replaceWithin]
      cases hbehind : Cut.behind? ['\r', '\n'] (c :: rest) with
      | some after =>
        rw [Cut.behind?_eq_some_iff.1 hbehind, List.filter_append, List.filter_append, ih]
        rfl
      | none =>
        dsimp only
        rw [List.filter_cons, List.filter_cons, ih]

/-- Texts that are the same unified have the same characters, carriage returns apart. -/
theorem filter_eq_of_unified {text other : String} (h : unified text = unified other) :
    text.toList.filter (· ≠ '\r') = other.toList.filter (· ≠ '\r') := by
  have hfilter : ∀ text : String,
      (unified text).toList.filter (· ≠ '\r') = text.toList.filter (· ≠ '\r') := by
    intro text
    rw [unified, Cut.replace, String.toList_ofList]
    exact filter_replaceWithin _ _
  rw [← hfilter text, h, hfilter other]

/-! ## Ranges of bytes -/

theorem exists_of_collapse (begun : List UInt8) {raw : List UInt8} {text : List Char}
    (h : encodeChars text = begun ++ collapse raw) : ∃ more, encodeChars more = begun ++ raw := by
  induction raw using units_induction generalizing begun text with
  | nil => exact ⟨text, h⟩
  | crlf rest ih =>
    rw [collapse_crlf] at h
    obtain ⟨hbefore, hafter⟩ := Utf8.encodeChars_split (by decide) h
    obtain ⟨more, hmore⟩ := ih [] hafter
    refine ⟨decodeChars begun ++ '\r' :: '\n' :: more, ?_⟩
    rw [Utf8.encodeChars_append, hbefore]
    change begun ++ carriageReturn :: lineFeed :: encodeChars more = _
    rw [hmore, List.nil_append]
  | byte a rest ha ih =>
    rw [collapse_cons ha, List.append_cons] at h
    obtain ⟨more, hmore⟩ := ih _ h
    exact ⟨more, by rw [hmore, ← List.append_cons]⟩

/-- A range that reads like a text is a text, and the same one when both are unified. -/
theorem Occurs.exists_text {text : String} {raw : List UInt8} {start stop : Nat}
    (h : Occurs (Utf8.encode text) raw start stop) :
    ∃ matched, (raw.take stop).drop start = Utf8.encode matched ∧
      unified matched = unified text := by
  have hreads := h.reads
  rw [← encode_unified] at hreads
  obtain ⟨more, hmore⟩ := exists_of_collapse [] hreads.symm
  have hbytes : (raw.take stop).drop start = Utf8.encode (String.ofList more) := by
    rw [Utf8.encode, String.toList_ofList, hmore, List.nil_append]
  refine ⟨String.ofList more, hbytes, Utf8.encode_injective ?_⟩
  rw [encode_unified, ← hbytes, hreads]

theorem unified_eq_empty_iff {text : String} : unified text = "" ↔ text = "" := by
  rw [← Utf8.encode_eq_nil_iff, encode_unified, ← normalize_eq_collapse, normalize_eq_nil_iff,
    Utf8.encode_eq_nil_iff]

end Newline

/-! ## What a search finds -/

theorem Range.bytes_mono {raw whole : List UInt8} {start stop : Nat} (h : raw <+: whole)
    (hstop : stop ≤ raw.length) : bytes whole (start, stop) = bytes raw (start, stop) := by
  exact take_drop_mono h fun _ => hstop

/-- Where a range of a stream is a text, the stream is read apart: what is in front of the range,
the text, and what is behind it. -/
theorem Buffer.snapshot_around {b : Buffer} {start stop : Nat} {text : String} (hne : text ≠ "")
    (hordered : start ≤ stop) (hrange : Range.bytes b.bytes (start, stop) = Utf8.encode text) :
    b.snapshot = Utf8.decode (b.bytes.take start) ++ text ++ Cursor.unread ⟨stop⟩ b := by
  have hbytes : b.bytes =
      b.bytes.take start ++ (Utf8.encodeChars text.toList ++ b.bytes.drop stop) := by
    have hfront := Range.bytes_append b.bytes (Nat.zero_le start) hordered
    rw [hrange] at hfront
    rw [← List.append_assoc]
    change b.bytes = Range.bytes b.bytes (0, start) ++ Utf8.encode text ++ _
    rw [hfront]
    exact (List.take_append_drop stop b.bytes).symm
  have hchars : text.toList ≠ [] := mt String.toList_eq_nil_iff.1 hne
  have hread := Utf8.decodeChars_around (b.bytes.take start) hchars (b.bytes.drop stop)
  rw [← hbytes] at hread
  apply String.toList_inj.1
  rw [Buffer.snapshot, Utf8.decode, String.toList_ofList, hread, String.toList_append,
    String.toList_append, Utf8.decode, String.toList_ofList, Cursor.unread, Utf8.decode,
    String.toList_ofList, List.append_assoc]
  rfl

namespace Cursor

variable {c next : Cursor} {b : Buffer} {text : String} {start stop : Nat}

/-- A look finds a range behind the cursor, and moves it to the end of the range. -/
theorem range_of_scan (h : c.scan b text = (.found start stop, next)) :
    c.position ≤ start ∧ start ≤ stop ∧ stop ≤ max c.position b.length ∧ next = ⟨stop⟩ := by
  rcases c.scan_cases b text with ⟨first, last, hrange, hscan⟩ | ⟨-, hscan⟩
  · obtain ⟨hfound, rfl⟩ := Prod.mk.inj (h.symm.trans hscan)
    obtain ⟨rfl, rfl⟩ := Scan.found.inj hfound
    obtain ⟨hordered, hwithin⟩ := findRange?_le hrange
    rw [length_unreadBytes] at hwithin
    exact ⟨by omega, by omega, by omega, rfl⟩
  · obtain ⟨hfound, -⟩ := Prod.mk.inj (h.symm.trans hscan)
    split_ifs at hfound

theorem exists_text_of_scan (h : c.scan b text = (.found start stop, next)) :
    ∃ matched, Range.bytes b.bytes (start, stop) = Utf8.encode matched ∧
      Newline.unified matched = Newline.unified text := by
  rcases c.scan_cases b text with ⟨first, last, hrange, hscan⟩ | ⟨-, hscan⟩
  · obtain ⟨hfound, -⟩ := Prod.mk.inj (h.symm.trans hscan)
    obtain ⟨rfl, rfl⟩ := Scan.found.inj hfound
    obtain ⟨matched, hbytes, hunified⟩ := (occurs_of_findRange? hrange).exists_text
    refine ⟨matched, ?_, hunified⟩
    rw [← hbytes, Range.bytes, unreadBytes, List.drop_take, List.drop_drop, Nat.add_sub_add_left]
  · obtain ⟨hfound, -⟩ := Prod.mk.inj (h.symm.trans hscan)
    split_ifs at hfound

theorem le_length_of_scan (h : c.scan b text = (.found start stop, next)) (hne : text ≠ "") :
    stop ≤ b.length := by
  obtain ⟨hstart, -, hstop, -⟩ := range_of_scan h
  obtain ⟨matched, hbytes, hunified⟩ := exists_text_of_scan h
  have hmatched : Utf8.encode matched ≠ [] := by
    intro hnil
    rw [Utf8.encode_eq_nil_iff.1 hnil, Newline.unified_eq_empty_iff.2 rfl, eq_comm,
      Newline.unified_eq_empty_iff] at hunified
    exact hne hunified
  have hinside : start < b.length := by
    rw [← Buffer.length_bytes]
    by_contra hout
    rw [Range.bytes, List.drop_eq_nil_of_le (by omega), List.take_nil] at hbytes
    exact hmatched hbytes.symm
  omega

end Cursor
end DaemonDialogue
