import DaemonDialogue.Proofs.Expectation.Race
import DaemonDialogue.Proofs.Stream.Exact

/-!
# What a wait has found

A wait that succeeds reports what its last look has found, while others went on writing. What it
reports of a text is in the stream for good: the bytes between its places are the text that it
reports, and the stream is read apart there, whatever else it holds and whatever comes behind.
-/

namespace DaemonDialogue.Match

variable {channel : Channel} {timeout interval : Span} {r after : Race} {found : Match}

/-! ## The last look -/

section Literal

variable {text : String} {c cursor : Cursor}

/-- What holds throughout a wait for a text: the stream has gone on, the cursor is where it was. -/
structure Waiting (r : Race) (c : Cursor) (p : (List Buffer × Cursor) × Race) : Prop where
  grown : r.stream.bytes <+: p.2.stream.bytes
  cursor : p.1.2 = c

theorem Waiting.pass {p : (List Buffer × Cursor) × Race} (h : Waiting r c p) :
    Waiting r c (p.1, p.2.pass) :=
  ⟨h.grown.trans p.2.bytes_prefix_pass, h.cursor⟩

theorem keeps_waiting (channel : Channel) (text : String) (interval : Span) (r : Race)
    (c : Cursor) :
    Polling.Keeps (Race.world.beside _) (lookLiteral Race.world Race.stream channel text) interval
      (Waiting r c) (Waiting r c) where
  before _ h := h
  look p next h hlook := by
    obtain ⟨rfl, -, -⟩ := missing_of_lookLiteral hlook
    exact ⟨h.grown, h.cursor⟩
  pause _ h := h.pass
  sleep _ h := ⟨h.pass.grown, h.cursor⟩

/-- A wait for a text that succeeds has found it in the stream at its last look, and reads what it
reports a moment later. -/
theorem exists_of_awaitLiteral
    (h : awaitLiteral Race.world Race.stream channel text timeout interval c r =
      (.ok found, cursor, after)) :
    ∃ now : Race, r.stream.bytes <+: now.stream.bytes ∧ after = now.pass ∧
      c.scan now.stream text = (.found found.start found.stop, cursor) ∧
      found.text = after.stream.textBetween found.start found.stop := by
  have hstart : Waiting r c (([], c), r.pass) := ⟨r.bytes_prefix_pass, rfl⟩
  have hend := (keeps_waiting channel text interval r c).poll timeout (s := (([], c), r)) hstart
  unfold awaitLiteral watchLiteral at h
  dsimp only at h
  rcases hpoll : Polling.poll (Race.world.beside _)
    (lookLiteral Race.world Race.stream channel text) timeout interval (([], c), r)
    with ⟨_ | result, ⟨seen, next⟩, last⟩
  · simp [hpoll] at h
  · rw [hpoll] at h hend
    obtain ⟨rfl, rfl, rfl⟩ : result = .ok found ∧ next = cursor ∧ last = after := by
      simpa [Prod.ext_iff] using h
    obtain ⟨⟨⟨before, c'⟩, now⟩, ⟨hgrown, rfl⟩, hlook⟩ := hend
    obtain ⟨-, hafter, hscan, htext⟩ := found_of_lookLiteral hlook
    exact ⟨now, hgrown, hafter, hscan, htext⟩

end Literal

theorem find?_of_watchPattern {m : Matcher} {seen : List Glimpse}
    (h : watchPattern Race.world Race.stream channel m timeout interval r =
      ⟨.ok found, seen, after⟩) :
    m.find? after.stream.snapshot = some (found.start, found.stop, found.text) := by
  have hkeeps : Polling.Keeps (Race.world.beside _) (lookMatch Race.world Race.stream channel m)
      interval (fun _ => True) (fun _ => True) :=
    ⟨fun _ h => h, fun _ _ h _ => h, fun _ h => h, fun _ h => h⟩
  have hend := hkeeps.poll timeout (s := (([] : List Glimpse), r)) trivial
  unfold watchPattern at h
  dsimp only at h
  rcases hpoll : Polling.poll (Race.world.beside _) (lookMatch Race.world Race.stream channel m)
    timeout interval ([], r) with ⟨_ | result, later, last⟩
  · simp [hpoll] at h
  · rw [hpoll] at h hend
    obtain ⟨rfl, rfl, rfl⟩ : result = .ok found ∧ later = seen ∧ last = after := by
      simpa using h
    obtain ⟨⟨before, now⟩, -, hlook⟩ := hend
    obtain ⟨hresult, hstate⟩ := Prod.ext_iff.1 hlook
    obtain ⟨-, rfl⟩ := Prod.ext_iff.1 hstate
    simp only [lookMatch, lookPattern] at hresult
    split at hresult
    · next start stop text hfound =>
      obtain rfl := Except.ok.inj (Option.some.inj hresult)
      exact hfound
    · split_ifs at hresult
      simp at hresult

/-! ## A text for good -/

/-- A wait for a text that succeeds reports bytes of the stream that are a text: the text that was
looked for, a carriage return in front of a line feed apart. So it has a replacement character
only where that text has one. The stream is read as what is in front of it, the text that is
reported, and what the cursor has not consumed, however many bytes of it are no text, wherever the
cursor stood, and whatever is written behind. -/
theorem awaitLiteral_exact (channel : Channel) (timeout interval : Span) (r after : Race)
    (text : String) (c cursor : Cursor) (found : Match) (hne : text ≠ "")
    (h : awaitLiteral Race.world Race.stream channel text timeout interval c r =
      (.ok found, cursor, after))
    (b : Buffer) (hb : after.stream.bytes <+: b.bytes) :
    found.start ≤ found.stop ∧ found.stop ≤ b.length ∧
      Utf8.strictDecode (Range.bytes b.bytes (found.start, found.stop)) = .ok found.text ∧
      Range.bytes b.bytes (found.start, found.stop) = Utf8.encode found.text ∧
      Newline.unified found.text = Newline.unified text ∧
      found.text.toList.filter (· ≠ '\r') = text.toList.filter (· ≠ '\r') ∧
      b.snapshot = Utf8.decode (b.bytes.take found.start) ++ found.text ++ cursor.unread b ∧
      (cursor.unread b).toList <:+ b.snapshot.toList := by
  obtain ⟨now, -, rfl, hscan, htext⟩ := exists_of_awaitLiteral h
  obtain ⟨-, hordered, -, rfl⟩ := Cursor.range_of_scan hscan
  have hwithin := Cursor.le_length_of_scan hscan hne
  obtain ⟨matched, hmatched, hunified⟩ := Cursor.exists_text_of_scan hscan
  -- What the look has found is still there when the text is read, and later.
  have hstays : ∀ later : Buffer, now.stream.bytes <+: later.bytes →
      Range.bytes later.bytes (found.start, found.stop) = Utf8.encode matched := by
    intro later hlater
    rw [Range.bytes_mono hlater (by rwa [Buffer.length_bytes]), hmatched]
  have hpass := now.bytes_prefix_pass
  obtain rfl : found.text = matched := by
    rw [htext]
    change Utf8.decode (Range.bytes now.pass.stream.bytes (found.start, found.stop)) = matched
    rw [hstays _ hpass, Utf8.encode, Utf8.decode, Utf8.decodeChars_encodeChars,
      String.ofList_toList]
  have hbytes := hstays b (hpass.trans hb)
  have hfound : found.text ≠ "" := by
    intro hempty
    rw [hempty, Newline.unified_eq_empty_iff.2 rfl, eq_comm,
      Newline.unified_eq_empty_iff] at hunified
    exact hne hunified
  have hsnapshot := Buffer.snapshot_around hfound hordered hbytes
  refine ⟨hordered, ?_, ?_, hbytes, hunified, Newline.filter_eq_of_unified hunified, hsnapshot, ?_⟩
  · rw [← Buffer.length_bytes] at hwithin ⊢
    exact hwithin.trans (hpass.trans hb).length_le
  · rw [hbytes, Utf8.strictDecode_encode]
  · rw [hsnapshot, String.toList_append]
    exact List.suffix_append _ _

/-- A cursor within a character, a line end of two bytes in the text, and bytes that are no text
behind it. -/
theorem awaitLiteral_exact_within_character :
    let r : Race := ⟨⟨{ written := #[195, 169, 97, 13, 10, 98] }, [[255], [195]]⟩, 0,
      fun _ => ⟨1, 0⟩⟩
    let after : Race := ⟨⟨{ written := #[195, 169, 97, 13, 10, 98, 255, 195] }, []⟩, 0,
      fun _ => ⟨1, 0⟩⟩
    let found : Match := ⟨.stdout, 2, 6, "a\r\nb"⟩
    "a\nb" ≠ "" ∧
      awaitLiteral Race.world Race.stream .stdout "a\nb" ⟨0⟩ ⟨0⟩ ⟨1⟩ r = (.ok found, ⟨6⟩, after) ∧
      after.stream.bytes <+: after.stream.bytes ∧
      after.stream.snapshot = Utf8.decode [195, 169] ++ "a\r\nb" ++ Utf8.decode [255, 195] := by
  intro r after found
  have hne : "a\nb" ≠ "" := by decide
  have hwait : awaitLiteral Race.world Race.stream .stdout "a\nb" ⟨0⟩ ⟨0⟩ ⟨1⟩ r =
      (.ok found, ⟨6⟩, after) := rfl
  obtain ⟨-, -, -, -, -, -, hsnapshot, -⟩ := awaitLiteral_exact .stdout ⟨0⟩ ⟨0⟩ r after "a\nb" ⟨1⟩
    ⟨6⟩ found hne hwait after.stream List.prefix_rfl
  exact ⟨hne, hwait, List.prefix_rfl, hsnapshot⟩

end DaemonDialogue.Match

/-!
## Where matches are

A match says where it is. A wait for a text counts the bytes of the stream; a wait for a pattern
counts the bytes of the text that the stream is read as, and a part of the stream that is no text
counts there as the character that stands for it. So the places of a pattern are those of the
stream only as far as nothing is lost, and behind them otherwise.
-/

namespace DaemonDialogue

/-- The place in the text of a stream that a place of the stream is read as. -/
def Buffer.offsetInText (b : Buffer) (place : Nat) : Nat :=
  (Utf8.encode (Utf8.decode (b.bytes.take place))).length

/-- Is what a search finds in a text a range of it, given by its bytes? -/
def Matcher.FindsRange (m : Matcher) (history : String) : Prop :=
  ∀ start stop text, m.find? history = some (start, stop, text) →
    ∃ before after, history = before ++ text ++ after ∧
      start = (Utf8.encode before).length ∧ stop = start + (Utf8.encode text).length

theorem Matcher.findsRange_of_find? {m : Matcher} {history text : String} {start stop : Nat}
    (before after : String) (h : m.find? history = some (start, stop, text))
    (hhistory : history = before ++ text ++ after) (hstart : start = (Utf8.encode before).length)
    (hstop : stop = start + (Utf8.encode text).length) : m.FindsRange history := by
  intro start' stop' text' h'
  rw [h] at h'
  obtain ⟨rfl, rfl, rfl⟩ : start = start' ∧ stop = stop' ∧ text = text' := by simpa using h'
  exact ⟨before, after, hhistory, hstart, hstop⟩

namespace Match

/-- Does a match report what stands in a stream between its places? -/
structure StandsIn (found : Match) (b : Buffer) : Prop where
  ordered : found.start ≤ found.stop
  within : found.stop ≤ b.length
  text : found.text = b.textBetween found.start found.stop

/-- Is a match the range of a stream between two places, read as a part of the text of the stream
and counted in that text? -/
structure ReadFrom (found : Match) (b : Buffer) (first last : Nat) : Prop where
  ordered : first ≤ last
  within : last ≤ b.length
  text : found.text = b.textBetween first last
  apart : b.snapshot =
    Utf8.decode (b.bytes.take first) ++ found.text ++ Utf8.decode (b.bytes.drop last)
  start : found.start = b.offsetInText first
  stop : found.stop = b.offsetInText last

instance (found : Match) (b : Buffer) : Decidable (found.StandsIn b) :=
  decidable_of_iff (found.start ≤ found.stop ∧ found.stop ≤ b.length ∧
    found.text = b.textBetween found.start found.stop)
    ⟨fun ⟨ordered, within, text⟩ => ⟨ordered, within, text⟩,
      fun ⟨ordered, within, text⟩ => ⟨ordered, within, text⟩⟩

variable {found : Match} {b more : Buffer}

theorem StandsIn.mono (h : found.StandsIn b) (hb : b.bytes <+: more.bytes) :
    found.StandsIn more := by
  have hlength : b.length ≤ more.length := by
    rw [← Buffer.length_bytes, ← Buffer.length_bytes]
    exact hb.length_le
  refine ⟨h.ordered, h.within.trans hlength, ?_⟩
  rw [Buffer.textBetween_mono hb fun _ => h.within]
  exact h.text

/-- Where a match is read from stands what it reports. -/
theorem ReadFrom.standsIn {first last : Nat} (h : found.ReadFrom b first last)
    (hstart : first = found.start) (hstop : last = found.stop) : found.StandsIn b := by
  subst hstart hstop
  exact ⟨h.ordered, h.within, h.text⟩

/-- A match that is a range of the text of a stream is read from a range of the stream. That is at
the same places exactly if nothing is lost up to the end of the match, and never behind them. -/
theorem exists_readFrom {m : Matcher} (hm : m.FindsRange b.snapshot)
    (h : m.find? b.snapshot = some (found.start, found.stop, found.text)) :
    ∃ first last, found.ReadFrom b first last ∧ first ≤ found.start ∧ last ≤ found.stop ∧
      (first = found.start ∧ last = found.stop ↔ Utf8.Lossless (b.bytes.take found.stop)) := by
  obtain ⟨before, after, hhistory, hstart, hstop⟩ := hm _ _ _ h
  have hchars : Utf8.decodeChars b.bytes =
      before.toList ++ (found.text.toList ++ after.toList) := by
    have hlist := congrArg String.toList hhistory
    rwa [Buffer.snapshot, Utf8.decode, String.toList_ofList, String.toList_append,
      String.toList_append, List.append_assoc] at hlist
  obtain ⟨raw, inner, rest, hbytes, hraw, hinner, hrest, hfront, hfirst, hlast, hlossless⟩ :=
    Utf8.exists_range hchars
  have htake : b.bytes.take raw.length = raw := by rw [hbytes, List.take_left]
  have hdrop : b.bytes.drop (raw.length + inner.length) = rest := by
    rw [hbytes, ← List.append_assoc, ← List.length_append, List.drop_left]
  have hboth : b.bytes.take (raw.length + inner.length) = raw ++ inner := by
    rw [hbytes, ← List.append_assoc, ← List.length_append, List.take_left]
  have hrange : Range.bytes b.bytes (raw.length, raw.length + inner.length) = inner := by
    rw [Range.bytes, hbytes, List.drop_left, Nat.add_sub_cancel_left, List.take_left]
  refine ⟨raw.length, raw.length + inner.length, ⟨by omega, ?_, ?_, ?_, ?_, ?_⟩, ?_, ?_, ?_⟩
  · rw [← Buffer.length_bytes, hbytes]
    simp only [List.length_append]
    omega
  · change found.text = Utf8.decode (Range.bytes b.bytes (raw.length, raw.length + inner.length))
    rw [hrange, Utf8.decode, hinner, String.ofList_toList]
  · rw [htake, hdrop, Utf8.decode, Utf8.decode, hraw, hrest, String.ofList_toList,
      String.ofList_toList, hhistory]
  · rw [Buffer.offsetInText, htake, Utf8.decode, hraw, String.ofList_toList, hstart]
  · rw [Buffer.offsetInText, hboth, Utf8.decode, hfront, String.ofList_append,
      String.ofList_toList, String.ofList_toList, Utf8.encode_append, List.length_append, hstop,
      hstart]
  · rw [hstart]
    exact hfirst
  · rw [hstop, hstart]
    exact Nat.add_le_add hfirst hlast
  · rw [hstop, hstart]
    refine Iff.trans (and_congr_right fun hsame => ?_) hlossless
    rw [hsame]
    exact Nat.add_left_cancel_iff

variable {channel : Channel} {timeout interval : Span} {r after : Race}

theorem standsIn_of_awaitLiteral {text : String} {c cursor : Cursor}
    (hc : c.position ≤ r.stream.length)
    (h : awaitLiteral Race.world Race.stream channel text timeout interval c r =
      (.ok found, cursor, after)) : found.StandsIn after.stream ∧ cursor = ⟨found.stop⟩ := by
  obtain ⟨now, hgrown, rfl, hscan, htext⟩ := exists_of_awaitLiteral h
  obtain ⟨-, hordered, hstop, rfl⟩ := Cursor.range_of_scan hscan
  have hnow := hgrown.length_le
  have hpass := now.bytes_prefix_pass.length_le
  rw [Buffer.length_bytes, Buffer.length_bytes] at hnow hpass
  exact ⟨⟨hordered, by omega, htext⟩, rfl⟩

/-- Whatever a stream holds, and whatever is written while a wait runs and behind it: a match of a
text reports what stands in the stream at its places, and the cursor is left at the later of them.
A match of a pattern, with a search that finds ranges of the text in which it looks, is read from
a range of the stream too, but counts it in the text of the stream. Its places are those of the
range exactly if nothing is lost in reading the stream up to its end, and then it reports what
stands in the stream at its places; otherwise they lie behind the range. -/
theorem offsets_of_matches (channel : Channel) (timeout interval : Span) (r : Race) :
    (∀ (text : String) (c cursor : Cursor) (found : Match) (after : Race),
      c.position ≤ r.stream.length →
      awaitLiteral Race.world Race.stream channel text timeout interval c r =
        (.ok found, cursor, after) →
      cursor.position = found.stop ∧
        ∀ b : Buffer, after.stream.bytes <+: b.bytes → found.StandsIn b) ∧
    ∀ (m : Matcher) (found : Match),
      let w := watchPattern Race.world Race.stream channel m timeout interval r
      let b := w.state.stream
      w.result = .ok found → m.FindsRange b.snapshot →
      ∃ first last, found.ReadFrom b first last ∧ first ≤ found.start ∧ last ≤ found.stop ∧
        (first = found.start ∧ last = found.stop ↔ Utf8.Lossless (b.bytes.take found.stop)) ∧
        (Utf8.Lossless (b.bytes.take found.stop) →
          ∀ more : Buffer, b.bytes <+: more.bytes → found.StandsIn more) := by
  constructor
  · intro text c cursor found after hc h
    obtain ⟨hstands, rfl⟩ := standsIn_of_awaitLiteral hc h
    exact ⟨rfl, fun b hb => hstands.mono hb⟩
  · intro m found w b hresult hm
    have hw : w = ⟨.ok found, w.seen, w.state⟩ := by rw [← hresult]
    obtain ⟨first, last, hread, hfirst, hlast, hiff⟩ :=
      exists_readFrom hm (find?_of_watchPattern hw)
    refine ⟨first, last, hread, hfirst, hlast, hiff, ?_⟩
    intro hlossless more hmore
    obtain ⟨hstart, hstop⟩ := hiff.2 hlossless
    exact (hread.standsIn hstart hstop).mono hmore

/-- The pattern that is written as a single letter. -/
def letter : Pattern := (Pattern.read? "a").get (by decide +kernel)

/-- A text and a pattern in a stream, with bytes that are no text behind the match. -/
theorem offsets_of_matches_in_text :
    let r : Race := ⟨⟨{ written := #[195, 169, 97, 255] }, [[97], [97]]⟩, 0, fun _ => ⟨1, 0⟩⟩
    let after : Race := ⟨⟨{ written := #[195, 169, 97, 255, 97, 97] }, []⟩, 0, fun _ => ⟨1, 0⟩⟩
    let found : Match := ⟨.stdout, 2, 3, "a"⟩
    let w := watchPattern Race.world Race.stream .stdout letter.matcher ⟨0⟩ ⟨0⟩ r
    (({} : Cursor).position ≤ r.stream.length ∧
      awaitLiteral Race.world Race.stream .stdout "a" ⟨0⟩ ⟨0⟩ {} r = (.ok found, ⟨3⟩, after) ∧
      found.StandsIn after.stream) ∧
    w.result = .ok found ∧ letter.matcher.FindsRange w.state.stream.snapshot ∧
      Utf8.Lossless (w.state.stream.bytes.take 3) ∧ found.StandsIn w.state.stream := by
  intro r after found w
  obtain ⟨hliteral, hpattern⟩ := offsets_of_matches .stdout ⟨0⟩ ⟨0⟩ r
  have hplace : ({} : Cursor).position ≤ r.stream.length := by decide
  have hwait : awaitLiteral Race.world Race.stream .stdout "a" ⟨0⟩ ⟨0⟩ {} r =
      (.ok found, ⟨3⟩, after) := rfl
  have hresult : w.result = .ok found := by decide +kernel
  have hfind : letter.matcher.find? w.state.stream.snapshot = some (2, 3, "a") := by
    decide +kernel
  have hrange : letter.matcher.FindsRange w.state.stream.snapshot :=
    Matcher.findsRange_of_find? "é" "\uFFFDaa" hfind (by decide +kernel) rfl rfl
  have hfront : w.state.stream.bytes.take 3 = Utf8.encodeChars ['é', 'a'] := by decide +kernel
  have hlossless : Utf8.Lossless (w.state.stream.bytes.take 3) := by
    rw [hfront]
    exact Utf8.lossless_encodeChars _
  obtain ⟨-, -, -, -, -, -, hstands⟩ := hpattern letter.matcher found hresult hrange
  exact ⟨⟨hplace, hwait, (hliteral _ _ _ _ _ hplace hwait).2 _ List.prefix_rfl⟩, hresult, hrange,
    hlossless, hstands hlossless _ List.prefix_rfl⟩

/-- Behind a byte that is no text a pattern is reported where the stream is over, and the same
letter as a text is reported where it stands. -/
theorem offsets_of_matches_behind :
    let r : Race := ⟨⟨{ written := #[255, 97] }, []⟩, 0, fun _ => ⟨0, 0⟩⟩
    let found : Match := ⟨.stdout, 3, 4, "a"⟩
    let wait := awaitPattern Race.world Race.stream .stdout letter ⟨0⟩ ⟨0⟩ r
    wait.1 = .ok found ∧ letter.matcher.FindsRange wait.2.stream.snapshot ∧
      wait.2.stream.bytes = [255, 97] ∧ ¬found.StandsIn wait.2.stream ∧
      (awaitLiteral Race.world Race.stream .stdout "a" ⟨0⟩ ⟨0⟩ {} r).1 =
        .ok ⟨.stdout, 1, 2, "a"⟩ := by
  intro r found wait
  have hfind : letter.matcher.find? wait.2.stream.snapshot = some (3, 4, "a") := by
    decide +kernel
  refine ⟨by decide +kernel, ?_, by decide +kernel, by decide +kernel, by decide +kernel⟩
  exact Matcher.findsRange_of_find? "\uFFFD" "" hfind (by decide +kernel) rfl rfl

end Match
end DaemonDialogue
