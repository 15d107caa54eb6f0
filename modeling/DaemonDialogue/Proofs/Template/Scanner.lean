import DaemonDialogue.Proofs.Template.RoundTrip
import DaemonDialogue.Proofs.Text.Utf8

/-!
# Reading templates at offsets

A scanner reads a template at offsets of its bytes. It looks for the braces that close a tag one
byte at a time, takes texts and bodies out of the source between two offsets, and keeps a stack of
frames with the template itself at the bottom. No offset is out of range or inside of a character,
the bottom of the stack stays where it is, and the scanner reads what is read from pieces.
-/

namespace DaemonDialogue

/-! ## Parts of a text -/

namespace Utf8

/-- The characters before and behind an offset, if it is in range and between characters. -/
def splitAt? : Nat → List Char → Option (List Char × List Char)
  | 0, text => some ([], text)
  | _ + 1, [] => none
  | n + 1, c :: rest =>
    if c.utf8Size ≤ n + 1 then
      (splitAt? (n + 1 - c.utf8Size) rest).map fun (before, after) => (c :: before, after)
    else none

/-- The characters between two offsets, if these are in order, in range and between characters. -/
def slice? (text : List Char) (start stop : Nat) : Option (List Char) :=
  if start ≤ stop then do
    let (_, rest) ← splitAt? start text
    let (middle, _) ← splitAt? (stop - start) rest
    return middle
  else none

@[simp] theorem width_nil : width [] = 0 := rfl

@[simp] theorem width_cons (c : Char) (text : List Char) :
    width (c :: text) = c.utf8Size + width text := rfl

@[simp] theorem width_append (text other : List Char) :
    width (text ++ other) = width text + width other := by
  induction text with
  | nil => simp
  | cons c text ih => simp [ih, Nat.add_assoc]

@[simp] theorem width_reverse (text : List Char) : width text.reverse = width text := by
  induction text with
  | nil => rfl
  | cons c text ih => simp [ih, Nat.add_comm]

theorem length_encodeChars (text : List Char) : (encodeChars text).length = width text := by
  induction text with
  | nil => rfl
  | cons c text ih => simp [encodeChars_cons, String.length_utf8EncodeChar, ih]

/-- A text is split where the bytes of some of its characters end, and nowhere else. -/
theorem splitAt?_eq_some {n : Nat} {text before after : List Char} :
    splitAt? n text = some (before, after) ↔ text = before ++ after ∧ width before = n := by
  fun_induction splitAt? n text generalizing before with
  | case1 text =>
    cases before with
    | nil => simp
    | cons c before =>
      have hsize := c.utf8Size_pos
      simp only [Option.some.injEq, Prod.mk.injEq, reduceCtorEq, false_and, width_cons, false_iff]
      omega
  | case2 n =>
    cases before <;> simp
  | case3 n c text hsize ih =>
    cases before with
    | nil => simp
    | cons d before =>
      have hwidth : width before = n + 1 - c.utf8Size ↔ c.utf8Size + width before = n + 1 := by
        omega
      simp only [Option.map_eq_some_iff, Prod.mk.injEq, List.cons.injEq, List.cons_append,
        width_cons, Prod.exists]
      constructor
      · rintro ⟨before, after, hsplit, ⟨rfl, rfl⟩, rfl⟩
        obtain ⟨rfl, hbefore⟩ := ih.1 hsplit
        exact ⟨⟨rfl, rfl⟩, hwidth.1 hbefore⟩
      · rintro ⟨⟨rfl, htext⟩, hbefore⟩
        exact ⟨before, after, ih.2 ⟨htext, hwidth.2 hbefore⟩, ⟨rfl, rfl⟩, rfl⟩
  | case4 n c text hsize =>
    cases before with
    | nil => simp
    | cons d before =>
      simp only [reduceCtorEq, List.cons_append, List.cons.injEq, width_cons, false_iff]
      rintro ⟨⟨rfl, -⟩, hwidth⟩
      omega

theorem splitAt?_width (before after : List Char) :
    splitAt? (width before) (before ++ after) = some (before, after) :=
  splitAt?_eq_some.2 ⟨rfl, rfl⟩

/-- A part of a text stands between the offsets of its beginning and its end. -/
theorem slice?_eq_some {text middle : List Char} {start stop : Nat} :
    slice? text start stop = some middle ↔
      ∃ before after, text = before ++ middle ++ after ∧ width before = start ∧
        width before + width middle = stop := by
  constructor
  · intro h
    unfold slice? at h
    split_ifs at h with horder
    obtain ⟨⟨before, rest⟩, hstart, h⟩ := Option.bind_eq_some_iff.1 h
    obtain ⟨⟨middle', after⟩, hstop, h⟩ := Option.bind_eq_some_iff.1 h
    obtain rfl := Option.some.inj h
    obtain ⟨rfl, hbefore⟩ := splitAt?_eq_some.1 hstart
    obtain ⟨rfl, hmiddle⟩ := splitAt?_eq_some.1 hstop
    refine ⟨before, after, (List.append_assoc _ _ _).symm, hbefore, ?_⟩
    omega
  · rintro ⟨before, after, rfl, rfl, rfl⟩
    unfold slice?
    rw [if_pos (by omega), List.append_assoc, splitAt?_width, Nat.add_sub_cancel_left]
    simp [splitAt?_width]

theorem eq_of_ofNat_eq {c d : Char} (hc : c.toNat < 0x80) (hd : d.toNat < 0x80)
    (h : UInt8.ofNat c.toNat = UInt8.ofNat d.toNat) : c = d := by
  have hvalue := congrArg UInt8.toNat h
  rw [UInt8.toNat_ofNat', UInt8.toNat_ofNat', Nat.mod_eq_of_lt (by omega),
    Nat.mod_eq_of_lt (by omega)] at hvalue
  exact Char.toNat_inj.1 hvalue

end Utf8

namespace Template

/-! ## Scanners -/

/-- The offset of the first opening braces. -/
def findOpen : List Char → Option Nat
  | [] => none
  | '\x7b' :: '\x7b' :: _ => some 0
  | c :: rest => (findOpen rest).map (c.utf8Size + ·)

/-- The offset of the first blank. -/
def findBlank : List Char → Option Nat
  | [] => none
  | c :: rest => if isBlank c then some 0 else (findBlank rest).map (c.utf8Size + ·)

/-- The offset of the braces that close a tag, found among the bytes from `i` on: inside of quotes
a backslash takes the byte behind it along. -/
def findClose (inQuotes : Bool) (i : Nat) : List UInt8 → Option Nat
  | [] => none
  | b :: rest =>
    if b == 0x5C && inQuotes then
      match rest with
      | [] => none
      | _ :: rest => findClose inQuotes (i + 2) rest
    else if b == 0x22 then findClose (!inQuotes) (i + 1) rest
    else if b == 0x7D && !inQuotes && rest.head? == some 0x7D then some i
    else findClose inQuotes (i + 1) rest

/-- The node of a field or an action, out of its name and what is behind the name. -/
def named (name rest : List Char) : Except Fault Node :=
  if !isName name then .error (.invalidFieldName (String.ofList name))
  else if rest.isEmpty then .ok (.field (String.ofList name))
  else match unquote rest with
    | some argument => .ok (.action (String.ofList name) argument)
    | none => .error (.invalidArgument (String.ofList name) (String.ofList rest))

/-- The node of a field or an action, behind its dot, if it can be split at its first blank. -/
def dotted? (text : List Char) : Option (Except Fault Node) :=
  match findBlank text with
  | none => some (named text [])
  | some offset => do
    let (name, rest) ← Utf8.splitAt? offset text
    return named name (Blank.trimChars rest)

/-- The node of a tag that opens or closes nothing. -/
def placeholder? : List Char → Option (Except Fault Node)
  | '.' :: rest => dotted? rest
  | body => some (placeholder body)

/-- What is open: the template, or a choice before or behind its `else`. -/
inductive Frame
  | root
  | yes (condition : String) (offset : Nat)
  | no (condition : String) (yes : List Node) (offset : Nat)

/-- The open frames from the innermost on, with the nodes read in each (in reverse). -/
abbrev Stack := List (Frame × List Node)

inductive Complaint
  | fault (fault : Fault)
  | unbalancedEnd
  | unbalancedBlocks
  deriving DecidableEq, Repr

/-- What a scanner makes of a source: nodes, or a complaint and the offset to blame. -/
abbrev Verdict := Except (Nat × Complaint) (List Node)

namespace Stack

def pushText (text : List Char) : Stack → Stack
  | [] => []
  | (frame, nodes) :: outer =>
    if text.isEmpty then (frame, nodes) :: outer
    else match nodes with
      | .text before :: nodes => (frame, .text (before ++ String.ofList text) :: nodes) :: outer
      | nodes => (frame, .text (String.ofList text) :: nodes) :: outer

def pushNode (node : Node) : Stack → Stack
  | [] => []
  | (frame, nodes) :: outer => (frame, node :: nodes) :: outer

/-- Reads a tag that opens at an offset. -/
def tag (stack : Stack) (start : Nat) : Tag → Option (Except (Nat × Complaint) Stack)
  | .end_ => some <| match stack with
    | [] => .error (start, .unbalancedEnd)
    | (.root, _) :: _ => .error (start, .fault .endWithoutIf)
    | (.yes condition _, nodes) :: outer =>
      .ok (pushNode (.choice condition nodes.reverse []) outer)
    | (.no condition yes _, nodes) :: outer =>
      .ok (pushNode (.choice condition yes nodes.reverse) outer)
  | .else_ => some <| match stack with
    | (.yes condition offset, nodes) :: outer =>
      .ok ((.no condition nodes.reverse offset, []) :: outer)
    | _ => .error (start, .fault .elseWithoutIf)
  | .if_ condition => some <|
    if isName condition then .ok ((.yes (String.ofList condition) start, []) :: stack)
    else .error (start, .fault (.invalidCondition (String.ofList condition)))
  | .other body => (placeholder? body).map fun
    | .ok node => .ok (stack.pushNode node)
    | .error fault => .error (start, .fault fault)

/-- The nodes of a template of some length once all of it is read. -/
def finish (length : Nat) : Stack → Verdict
  | [(.root, nodes)] => .ok nodes.reverse
  | (.yes _ offset, _) :: _ => .error (offset, .fault .ifWithoutEnd)
  | (.no _ _ offset, _) :: _ => .error (offset, .fault .ifWithoutEnd)
  | _ => .error (length, .unbalancedBlocks)

end Stack

namespace Scanner

/-- How a scanner goes on: with a stack at an offset, or not at all. -/
inductive Turn
  | next (stack : Stack) (pos : Nat)
  | done (verdict : Verdict)

/-- Reads the tag that opens at an offset, if its body is between characters. -/
def tagAt (source : List Char) (stack : Stack) (start : Nat) : Option Turn :=
  let inside := start + 2
  match findClose false inside ((Utf8.encodeChars source).drop inside) with
  | none => some (.done (.error (inside - 2, .fault .unterminated)))
  | some stop => do
    let body ← Utf8.slice? source inside stop
    match ← stack.tag start (Tag.ofBody body) with
    | .ok stack => return .next stack (stop + 2)
    | .error complaint => return .done (.error complaint)

/-- Reads the text at an offset and the tag behind it, if they are between characters. -/
def turn (source : List Char) (stack : Stack) (pos : Nat) : Option Turn := do
  let (_, rest) ← Utf8.splitAt? pos source
  match findOpen rest with
  | none => return .done ((stack.pushText rest).finish (Utf8.width source))
  | some opening =>
    let (before, _) ← Utf8.splitAt? opening rest
    tagAt source (stack.pushText before) (pos + opening)

theorem le_of_findClose {inQuotes : Bool} {i stop : Nat} {bytes : List UInt8}
    (h : findClose inQuotes i bytes = some stop) : i ≤ stop := by
  fun_induction findClose inQuotes i bytes
  all_goals grind

theorem lt_of_tagAt {source : List Char} {stack stack' : Stack} {start next : Nat}
    (h : tagAt source stack start = some (.next stack' next)) : start < next := by
  unfold tagAt at h
  dsimp only at h
  split at h
  · cases h
  · next stop hstop =>
    have hle := le_of_findClose hstop
    obtain ⟨body, -, h⟩ := Option.bind_eq_some_iff.1 h
    obtain ⟨result, -, h⟩ := Option.bind_eq_some_iff.1 h
    split at h
    · cases h
      omega
    · cases h

theorem lt_of_turn {source : List Char} {stack stack' : Stack} {pos next : Nat}
    (h : turn source stack pos = some (.next stack' next)) : pos < next := by
  unfold turn at h
  obtain ⟨⟨_, rest⟩, -, h⟩ := Option.bind_eq_some_iff.1 h
  dsimp only at h
  split at h
  · cases h
  · obtain ⟨⟨before, _⟩, -, h⟩ := Option.bind_eq_some_iff.1 h
    exact Nat.lt_of_le_of_lt (Nat.le_add_right _ _) (lt_of_tagAt h)

/-- Goes on until the source ends. -/
def run (source : List Char) (stack : Stack) (pos : Nat) : Option Verdict :=
  if pos < Utf8.width source then
    match hturn : turn source stack pos with
    | none => none
    | some (.done verdict) => some verdict
    | some (.next stack next) =>
      have := lt_of_turn hturn
      run source stack next
  else some (stack.finish (Utf8.width source))
termination_by Utf8.width source - pos

/-- What a scanner makes of a source, if no offset is out of range or inside of a character. -/
def scan (source : String) : Option Verdict := run source.toList [(.root, [])] 0

end Scanner

/-! ## Braces and blanks -/

theorem findOpen_splitOpen (read text : List Char) :
    (findOpen text).map (Utf8.width read + ·) =
      (splitOpen read text).2.map fun _ => Utf8.width (splitOpen read text).1 := by
  fun_induction splitOpen read text with
  | case1 => rfl
  | case2 => simp [findOpen]
  | case3 read c rest hne ih =>
    rw [← ih, findOpen.eq_3 _ _ hne, Option.map_map]
    congr 1
    funext n
    simp only [Function.comp_apply, Utf8.width_cons]
    omega

theorem findBlank_cases (text : List Char) :
    (findBlank text = none ∧ text.takeWhile (!isBlank ·) = text ∧
      text.dropWhile (!isBlank ·) = []) ∨
    findBlank text = some (Utf8.width (text.takeWhile (!isBlank ·))) := by
  induction text with
  | nil => exact .inl ⟨rfl, rfl, rfl⟩
  | cons c text ih =>
    by_cases hblank : isBlank c = true
    · right
      simp [findBlank, hblank]
    · rcases ih with ⟨hnone, htake, hdrop⟩ | hsome
      · left
        simp [findBlank, hblank, hnone, htake, hdrop]
      · right
        simp [findBlank, hblank, hsome]

/-- The bytes inside of a wide character are no quotes, backslashes or braces. -/
theorem findClose_high {inQuotes : Bool} {i : Nat} {bytes : List UInt8}
    (h : ∀ b ∈ bytes, 0x80 ≤ b.toNat) (rest : List UInt8) :
    findClose inQuotes i (bytes ++ rest) = findClose inQuotes (i + bytes.length) rest := by
  induction bytes generalizing i with
  | nil => rfl
  | cons b bytes ih =>
    obtain ⟨hb, hbytes⟩ := List.forall_mem_cons.1 h
    have hother : ∀ n : UInt8, n.toNat < 0x80 → (b == n) = false := by
      rintro n hn
      rw [beq_eq_false_iff_ne]
      rintro rfl
      omega
    rw [List.cons_append, findClose.eq_def]
    simp only [hother 0x5C (by decide), hother 0x22 (by decide), hother 0x7D (by decide),
      Bool.false_and, Bool.false_eq_true, if_false]
    rw [ih hbytes, List.length_cons]
    congr 1
    omega

/-- A character that means nothing where it stands goes by with all of its bytes. -/
theorem findClose_other {inQuotes : Bool} (i : Nat) {c : Char} {rest : List Char} (hquote : c ≠ '"')
    (hescape : c = '\\' → inQuotes = false)
    (hclose : c = '\x7d' → inQuotes = false → rest.head? ≠ some '\x7d') :
    findClose inQuotes i (Utf8.encodeChars (c :: rest)) =
      findClose inQuotes (i + c.utf8Size) (Utf8.encodeChars rest) := by
  rcases Utf8.utf8EncodeChar_cases c with ⟨hc, hbytes, hsize⟩ | hhigh
  · have hbyte : ∀ d : Char, d.toNat < 0x80 → UInt8.ofNat c.toNat = UInt8.ofNat d.toNat → c = d :=
      fun d hd => Utf8.eq_of_ofNat_eq hc hd
    have hnoescape : ¬(UInt8.ofNat c.toNat == 0x5C && inQuotes) = true := by
      rw [Bool.and_eq_true, beq_iff_eq]
      rintro ⟨h, hin⟩
      simp [hescape (hbyte '\\' (by decide) h)] at hin
    have hnoquote : ¬(UInt8.ofNat c.toNat == 0x22) = true := by
      rw [beq_iff_eq]
      exact fun h => hquote (hbyte '"' (by decide) h)
    have hnoclose : ¬(UInt8.ofNat c.toNat == 0x7D && !inQuotes &&
        (Utf8.encodeChars rest).head? == some 0x7D) = true := by
      rw [Bool.and_eq_true, Bool.and_eq_true, beq_iff_eq, Bool.not_eq_true', beq_iff_eq]
      rintro ⟨⟨h, hout⟩, hhead⟩
      exact hclose (hbyte '\x7d' (by decide) h) hout
        (Utf8.head?_of_encodeChars (by decide) (by decide) hhead)
    rw [Utf8.encodeChars_cons, hbytes, List.singleton_append, findClose.eq_def]
    dsimp only
    rw [if_neg hnoescape, if_neg hnoquote, if_neg hnoclose, hsize]
  · rw [Utf8.encodeChars_cons, findClose_high hhigh, String.length_utf8EncodeChar]

/-- A backslash inside of quotes takes the next character along, though it skips one byte alone. -/
theorem findClose_escape (i : Nat) (c : Char) (rest : List Char) :
    findClose true i (Utf8.encodeChars ('\\' :: c :: rest)) =
      findClose true (i + 1 + c.utf8Size) (Utf8.encodeChars rest) := by
  have hescape : ∀ b bytes, findClose true i (0x5C :: b :: bytes) = findClose true (i + 2) bytes :=
    fun b bytes => by simp [findClose]
  have hbytes : Utf8.encodeChars ('\\' :: c :: rest) =
      0x5C :: (String.utf8EncodeChar c ++ Utf8.encodeChars rest) := by
    rw [Utf8.encodeChars_cons, Utf8.encodeChars_cons]
    rfl
  rw [hbytes]
  rcases Utf8.utf8EncodeChar_cases c with ⟨-, hchar, hsize⟩ | hhigh
  · rw [hchar, hsize, List.singleton_append, hescape]
  · have hlength := String.length_utf8EncodeChar c
    cases hchar : String.utf8EncodeChar c with
    | nil => exact absurd hchar String.utf8EncodeChar_ne_nil
    | cons b bytes =>
      rw [hchar] at hhigh hlength
      rw [List.cons_append, hescape, findClose_high fun b hb => hhigh b (by simp [hb]), ← hlength,
        List.length_cons]
      congr 1
      omega

example : findClose true 0 (Utf8.encode "\\é\"\x7d\x7d") = some 4 := by decide

theorem findClose_splitClose (start : Nat) (inQuotes : Bool) (read text : List Char) :
    findClose inQuotes (start + Utf8.width read) (Utf8.encodeChars text) =
      (splitClose inQuotes read text).map fun split => start + Utf8.width split.1 := by
  have hnext : ∀ (c : Char) (read : List Char),
      start + Utf8.width read + c.utf8Size = start + Utf8.width (c :: read) := by
    intro c read
    rw [Utf8.width_cons]
    omega
  fun_induction splitClose inQuotes read text with
  | case1 => rfl
  | case2 inQuotes read c rest hquote ih =>
    obtain rfl : c = '"' := by simpa using hquote
    have hbytes : Utf8.encodeChars ('"' :: rest) = 0x22 :: Utf8.encodeChars rest := rfl
    rw [← ih, ← hnext, hbytes, findClose.eq_def]
    rfl
  | case3 read c hquote hescape =>
    obtain rfl : c = '\\' := by simpa using hescape
    rfl
  | case4 read c hquote hescape d rest ih =>
    -- The one place where the scanner may stand inside of a character.
    obtain rfl : c = '\\' := by simpa using hescape
    rw [findClose_escape, ← ih, ← hnext, ← hnext]
    rfl
  | case5 read c rest hquote hescape ih =>
    rw [findClose_other _ (by simpa using hquote) (fun h => absurd h (by simpa using hescape))
      (by simp), hnext, ih]
  | case6 inQuotes read hout behind =>
    obtain rfl : inQuotes = false := by simpa using hout
    have hbytes : Utf8.encodeChars ('\x7d' :: '\x7d' :: behind) =
        0x7D :: 0x7D :: Utf8.encodeChars behind := rfl
    rw [hbytes, findClose.eq_def]
    rfl
  | case7 inQuotes read hout c rest hclose hquote ih =>
    obtain rfl : inQuotes = false := by simpa using hout
    rw [findClose_other _ (by simpa using hquote) (fun _ => rfl) (fun hc _ hhead => ?_), hnext, ih]
    obtain ⟨behind, rfl⟩ := List.head?_eq_some_iff.1 hhead
    exact hclose behind hc rfl

/-- The first blank is where a name is split from what is behind it. -/
theorem dotted?_eq (text : List Char) : dotted? text = some (dotted text) := by
  have hnamed : dotted text = named (text.takeWhile (!isBlank ·))
      (Blank.trimChars (text.dropWhile (!isBlank ·))) := rfl
  rw [hnamed, dotted?]
  rcases findBlank_cases text with ⟨hnone, htake, hdrop⟩ | hsome
  · rw [hnone, htake, hdrop]
    rfl
  · have hsplit := Utf8.splitAt?_width (text.takeWhile (!isBlank ·)) (text.dropWhile (!isBlank ·))
    rw [List.takeWhile_append_dropWhile] at hsplit
    rw [hsome]
    dsimp only
    rw [hsplit]
    rfl

theorem placeholder?_eq (body : List Char) : placeholder? body = some (placeholder body) := by
  unfold placeholder?
  split
  · exact dotted?_eq _
  · rfl

/-! ## Frames -/

def OpenChoice.frame (o : OpenChoice) : Frame :=
  match o.yes with
  | none => .yes o.condition o.offset
  | some yes => .no o.condition yes o.offset

def Stack.of (current : List Node) : List OpenChoice → Stack
  | [] => [(.root, current)]
  | o :: outer => (o.frame, current) :: Stack.of o.before outer

def Reading.stack (r : Reading) : Stack := Stack.of r.current r.opened

/-- What is read with a text behind it, if there is one. -/
def Reading.withText (r : Reading) (text : List Char) : Reading :=
  if text.isEmpty then r else { r with current := .text (String.ofList text) :: r.current }

theorem Reading.pieces_textPiece (r : Reading) (before : List Char) (rest : List Piece) :
    r.pieces (piecesFrom.textPiece before ++ rest) = (r.withText before.reverse).pieces rest := by
  cases before with
  | nil => rfl
  | cons c before => simp [piecesFrom.textPiece, withText, Reading.pieces]

theorem Stack.pushNode_of (node : Node) (current : List Node) (opened : List OpenChoice) :
    Stack.pushNode node (Stack.of current opened) = Stack.of (node :: current) opened := by
  cases opened <;> rfl

theorem Reading.PastTag.pushText {r : Reading} (h : r.PastTag) (text : List Char) :
    Stack.pushText text r.stack = (r.withText text).stack := by
  obtain ⟨current, opened⟩ := r
  have hpush : ∀ (frame : Frame) (outer : Stack),
      Stack.pushText text ((frame, current) :: outer) =
        (frame, (Reading.withText ⟨current, opened⟩ text).current) :: outer := by
    intro frame outer
    rw [Stack.pushText, Reading.withText]
    · split_ifs <;> rfl
    · rintro before nodes rfl
      exact h _ rfl before rfl
  have hopened : (Reading.withText ⟨current, opened⟩ text).opened = opened := by
    unfold Reading.withText
    split_ifs <;> rfl
  unfold Reading.stack
  rw [hopened]
  cases opened with
  | nil => exact hpush _ _
  | cons o outer => exact hpush _ _

theorem Reading.stack_tag (r : Reading) (start : Nat) (t : Tag) :
    r.stack.tag start t = some (match r.tag start t with
      | .ok r' => .ok r'.stack
      | .error fault => .error (start, .fault fault)) := by
  obtain ⟨current, opened⟩ := r
  cases t with
  | end_ =>
    cases opened with
    | nil => rfl
    | cons o outer =>
      obtain ⟨offset, condition, before, _ | yes⟩ := o
      · exact congrArg (some <| Except.ok ·) (Stack.pushNode_of _ before outer)
      · exact congrArg (some <| Except.ok ·) (Stack.pushNode_of _ before outer)
  | else_ =>
    cases opened with
    | nil => rfl
    | cons o outer =>
      obtain ⟨offset, condition, before, _ | yes⟩ := o <;> rfl
  | if_ condition =>
    rw [Reading.tag, Stack.tag]
    split_ifs <;> rfl
  | other body =>
    rw [Reading.tag, Stack.tag, placeholder?_eq]
    cases placeholder body with
    | error fault => rfl
    | ok node => exact congrArg (some <| Except.ok ·) (Stack.pushNode_of node current opened)

/-! ## Runs -/

/-- A scanner and a reader agree: on the nodes, or on what is wrong and where. -/
inductive Verdict.Agrees : Verdict → Except Error (List Node) → Prop
  | ok (nodes : List Node) : Agrees (.ok nodes) (.ok nodes)
  | error (offset : Nat) (fault : Fault) :
    Agrees (.error (offset, .fault fault)) (.error (.malformed offset fault))

namespace Scanner

theorem finish_agrees (length : Nat) (r : Reading) :
    Verdict.Agrees (r.stack.finish length) r.finish := by
  obtain ⟨current, opened⟩ := r
  cases opened with
  | nil => exact .ok _
  | cons o outer =>
    obtain ⟨offset, condition, before, _ | yes⟩ := o
    · exact .error _ _
    · exact .error _ _

variable {rest before inside : List Char}

theorem turn_of_text (read : List Char) (stack : Stack) (h : splitOpen [] rest = (before, none)) :
    turn (read ++ rest) stack (Utf8.width read) =
      some (.done ((stack.pushText rest).finish (Utf8.width (read ++ rest)))) := by
  have hopen : findOpen rest = none := by
    simpa [h] using findOpen_splitOpen [] rest
  rw [turn, Utf8.splitAt?_width]
  simp [hopen]

theorem tagAt_openBraces (stack : Stack) (before inside : List Char) :
    tagAt (before ++ openBraces ++ inside) stack (Utf8.width before) =
      match splitClose false [] inside with
      | none => some (.done (.error (Utf8.width before, .fault .unterminated)))
      | some (body, _) =>
        (stack.tag (Utf8.width before) (Tag.ofBody body.reverse)).map fun
          | .ok stack => .next stack (Utf8.width before + Utf8.width body + 4)
          | .error complaint => .done (.error complaint) := by
  have hinside : Utf8.width (before ++ openBraces) = Utf8.width before + 2 := by
    simp [openBraces, Char.utf8Size]
  have hbytes : (Utf8.encodeChars (before ++ openBraces ++ inside)).drop (Utf8.width before + 2) =
      Utf8.encodeChars inside := by
    rw [Utf8.encodeChars_append, ← hinside, ← Utf8.length_encodeChars, List.drop_left]
  have hclose := findClose_splitClose (Utf8.width before + 2) false [] inside
  rw [Utf8.width_nil, Nat.add_zero] at hclose
  rw [tagAt, hbytes, hclose]
  cases hsplit : splitClose false [] inside with
  | none => rfl
  | some split =>
    obtain ⟨body, behind⟩ := split
    obtain ⟨content, rfl, rfl, -⟩ := eq_of_splitClose_some hsplit
    have hbody : Utf8.slice? (before ++ openBraces ++ (content ++ '\x7d' :: '\x7d' :: behind))
        (Utf8.width before + 2) (Utf8.width before + 2 + Utf8.width content) = some content :=
      Utf8.slice?_eq_some.2 ⟨_, '\x7d' :: '\x7d' :: behind, by simp, hinside, by rw [hinside]⟩
    have hnext : Utf8.width before + 2 + Utf8.width content + 2 =
        Utf8.width before + Utf8.width content + 4 := by
      omega
    simp only [Option.map_some, List.append_nil, Utf8.width_reverse, List.reverse_reverse, hbody,
      hnext, Option.bind_eq_bind, Option.bind_some]
    cases stack.tag (Utf8.width before) (Tag.ofBody content) with
    | none => rfl
    | some result => cases result <;> rfl

theorem turn_of_tag (read : List Char) (stack : Stack) (h : splitOpen [] rest = (before, some inside)) :
    turn (read ++ rest) stack (Utf8.width read) =
      tagAt (read ++ rest) (stack.pushText before.reverse)
        (Utf8.width read + Utf8.width before) := by
  have hopen : findOpen rest = some (Utf8.width before) := by
    simpa [h] using findOpen_splitOpen [] rest
  obtain ⟨content, rfl, rfl, -⟩ := eq_of_splitOpen_some h
  have htext : Utf8.splitAt? (Utf8.width content) (content ++ (openBraces ++ inside)) =
      some (content, openBraces ++ inside) := Utf8.splitAt?_width _ _
  rw [turn, Utf8.splitAt?_width]
  simp only [List.append_nil, Utf8.width_reverse, List.append_assoc, List.reverse_reverse]
    at hopen ⊢
  simp [hopen, htext]

theorem turn_stack (read : List Char) {r : Reading} (hpast : r.PastTag)
    (h : splitOpen [] rest = (before, some inside)) :
    turn (read ++ rest) r.stack (Utf8.width read) =
      some (match splitClose false [] inside with
        | none => .done (.error (Utf8.width read + Utf8.width before, .fault .unterminated))
        | some (body, _) =>
          match (r.withText before.reverse).tag (Utf8.width read + Utf8.width before)
            (Tag.ofBody body.reverse) with
          | .ok r' => .next r'.stack (Utf8.width read + Utf8.width before + Utf8.width body + 4)
          | .error fault =>
            .done (.error (Utf8.width read + Utf8.width before, .fault fault))) := by
  have hstart : Utf8.width (read ++ before.reverse) = Utf8.width read + Utf8.width before := by
    simp
  have htag := tagAt_openBraces (r.withText before.reverse).stack (read ++ before.reverse) inside
  obtain ⟨content, hbefore, rfl, -⟩ := eq_of_splitOpen_some h
  obtain rfl : content = before.reverse := by simp [hbefore]
  have hsource : read ++ before.reverse ++ openBraces ++ inside =
      read ++ (before.reverse ++ openBraces ++ inside) := by
    simp
  rw [hsource, hstart] at htag
  rw [turn_of_tag read _ h, hpast.pushText, htag]
  cases splitClose false [] inside with
  | none => rfl
  | some split =>
    dsimp only
    rw [Reading.stack_tag]
    cases (r.withText before.reverse).tag (Utf8.width read + Utf8.width before)
      (Tag.ofBody split.1.reverse) <;> rfl

theorem run_of_done {source : List Char} {stack : Stack} {pos : Nat} {verdict : Verdict}
    (hpos : pos < Utf8.width source) (hturn : turn source stack pos = some (.done verdict)) :
    run source stack pos = some verdict := by
  rw [run, if_pos hpos]
  split
  · next h => cases h.symm.trans hturn
  · next h =>
    cases h.symm.trans hturn
    rfl
  · next h => cases h.symm.trans hturn

theorem run_of_next {source : List Char} {stack stack' : Stack} {pos next : Nat}
    (hpos : pos < Utf8.width source) (hturn : turn source stack pos = some (.next stack' next)) :
    run source stack pos = run source stack' next := by
  rw [run, if_pos hpos]
  split
  · next h => cases h.symm.trans hturn
  · next h => cases h.symm.trans hturn
  · next h =>
    cases h.symm.trans hturn
    rfl

theorem readOn_of_text (r : Reading) (offset : Nat) (h : splitOpen [] rest = (before, none)) :
    r.readOn offset rest = (r.withText rest).finish := by
  have hread := r.pieces_textPiece before []
  obtain ⟨rfl, -⟩ := eq_of_splitOpen_none h
  simp only [List.append_nil, List.reverse_reverse] at hread h
  rw [Reading.readOn, piecesFrom_of_text offset h, hread]
  rfl

theorem readOn_of_tag (r : Reading) (offset : Nat) (h : splitOpen [] rest = (before, some inside)) :
    r.readOn offset rest =
      match splitClose false [] inside with
      | none => .error (.malformed (offset + Utf8.width before) .unterminated)
      | some (body, behind) =>
        match (r.withText before.reverse).tag (offset + Utf8.width before)
          (Tag.ofBody body.reverse) with
        | .ok r' => r'.readOn (offset + Utf8.width before + Utf8.width body + 4) behind
        | .error fault => .error (.malformed (offset + Utf8.width before) fault) := by
  cases hclose : splitClose false [] inside with
  | none =>
    have hread := r.pieces_textPiece before []
    rw [List.append_nil] at hread
    rw [Reading.readOn, piecesFrom_of_open offset h hclose, hread]
    rfl
  | some split =>
    obtain ⟨body, behind⟩ := split
    rw [Reading.readOn, piecesFrom_of_tag offset h hclose, r.pieces_textPiece, Reading.pieces]
    dsimp only
    cases (r.withText before.reverse).tag (offset + Utf8.width before) (Tag.ofBody body.reverse) <;>
      rfl

theorem exists_of_tag {body behind : List Char} (h : splitOpen [] rest = (before, some inside))
    (hclose : splitClose false [] inside = some (body, behind)) :
    ∃ taken, rest = taken ++ behind ∧
      Utf8.width taken = Utf8.width before + Utf8.width body + 4 := by
  obtain ⟨content, rfl, rfl, -⟩ := eq_of_splitOpen_some h
  obtain ⟨inner, rfl, rfl, -⟩ := eq_of_splitClose_some hclose
  refine ⟨content ++ openBraces ++ inner ++ ['\x7d', '\x7d'], by simp, ?_⟩
  simp [openBraces, Char.utf8Size]
  omega

/-- From wherever it has come, a scanner reads what is read from the pieces that are left. -/
theorem run_agrees (read rest : List Char) {r : Reading} (h : r.PastTag) :
    ∃ verdict, run (read ++ rest) r.stack (Utf8.width read) = some verdict ∧
      Verdict.Agrees verdict (r.readOn (Utf8.width read) rest) := by
  -- By induction on what is left of the source: a turn leaves less of it, and a tag read last.
  induction hlength : rest.length using Nat.strong_induction_on generalizing read rest r with
  | _ length ih =>
    by_cases hrest : rest = []
    · subst hrest
      refine ⟨_, ?_, r.readOn_nil _ ▸ finish_agrees (Utf8.width read) r⟩
      rw [List.append_nil, run, if_neg (Nat.lt_irrefl _)]
    · have hpos : Utf8.width read < Utf8.width (read ++ rest) := by
        obtain ⟨c, rest, rfl⟩ := List.exists_cons_of_ne_nil hrest
        have hsize := c.utf8Size_pos
        rw [Utf8.width_append, Utf8.width_cons]
        omega
      rcases hopen : splitOpen [] rest with ⟨before, _ | inside⟩
      · refine ⟨_, run_of_done hpos (turn_of_text read _ hopen), ?_⟩
        rw [h.pushText, readOn_of_text r _ hopen]
        exact finish_agrees _ _
      · have hturn := turn_stack read h hopen
        rw [readOn_of_tag r _ hopen]
        cases hclose : splitClose false [] inside with
        | none =>
          rw [hclose] at hturn
          exact ⟨_, run_of_done hpos hturn, .error _ _⟩
        | some split =>
          obtain ⟨body, behind⟩ := split
          rw [hclose] at hturn
          dsimp only at hturn ⊢
          cases htag : (r.withText before.reverse).tag (Utf8.width read + Utf8.width before)
            (Tag.ofBody body.reverse) with
          | error fault =>
            rw [htag] at hturn
            exact ⟨_, run_of_done hpos hturn, .error _ _⟩
          | ok r' =>
            rw [htag] at hturn
            obtain ⟨taken, rfl, hwidth⟩ := exists_of_tag hopen hclose
            have hbehind := splitOpen_length hopen
            have hshort := splitClose_length hclose
            obtain ⟨verdict, hrun, hagrees⟩ := ih behind.length (by omega) (read ++ taken) behind
              (Reading.pastTag_of_tag htag) rfl
            have hnext : Utf8.width (read ++ taken) =
                Utf8.width read + Utf8.width before + Utf8.width body + 4 := by
              rw [Utf8.width_append, hwidth]
              omega
            rw [List.append_assoc, hnext] at hrun
            rw [hnext] at hagrees
            exact ⟨verdict, (run_of_next hpos hturn).trans hrun, hagrees⟩

/-- No offset of a scanner is out of range or inside of a character, and it makes of any source
what a reader makes of it. -/
theorem scan_agrees (source : String) :
    ∃ verdict, scan source = some verdict ∧ Verdict.Agrees verdict (readNodes source) := by
  have hempty : Reading.PastTag {} := by simp [Reading.PastTag]
  exact run_agrees [] source.toList hempty

end Scanner
end Template
end DaemonDialogue
