import DaemonDialogue.Proofs.Text.Blank
import DaemonDialogue.Proofs.Template.Piece
import DaemonDialogue.Template.Reader
import Mathlib.Data.List.TakeWhile
import Mathlib.Tactic

/-!
# Normal templates

The nodes that templates are read into: those that are read back from their own source.
Texts are as long as they can be, and names are words that no tag is made of.
-/

namespace DaemonDialogue.Template

/-- A text is followed by no other text, and ends in a brace only if it comes last at the end
(`final`) of the source. -/
def EndsAt (final : Bool) (content : String) (rest : List Node) : Prop :=
  (content.toList.getLast? = some '\x7b' → final = true ∧ rest = []) ∧
    ∀ other ∈ rest.head?, ∀ text, other ≠ .text text

mutual

/-- Is a node one that is read from a source? -/
def Node.Normal : Node → Prop
  | .text content => content.toList ≠ [] ∧ Plain content.toList
  | .function name => isName name.toList = true ∧ name ≠ "end" ∧ name ≠ "else"
  | .field name => isName name.toList = true
  | .action name _ => isName name.toList = true
  | .choice condition yes no =>
    isName condition.toList = true ∧ NormalList false yes ∧ NormalList false no

/-- Are nodes read from a source, and up to its end if they are `final`? -/
def NormalList (final : Bool) : List Node → Prop
  | [] => True
  | node :: rest =>
    node.Normal ∧ (∀ content, node = .text content → EndsAt final content rest) ∧
      NormalList final rest

end

theorem EndsAt.final {final : Bool} {content : String} {rest : List Node}
    (h : EndsAt false content rest) : EndsAt final content rest :=
  ⟨fun hbrace => absurd (h.1 hbrace).1 Bool.false_ne_true, h.2⟩

theorem NormalList.final {final : Bool} {nodes : List Node} (h : NormalList false nodes) :
    NormalList final nodes := by
  induction nodes with
  | nil => trivial
  | cons node rest ih =>
    obtain ⟨hnode, hends, hrest⟩ := h
    exact ⟨hnode, fun content heq => (hends content heq).final, ih hrest⟩

/-- Normal nodes go on with a normal node, unless two texts meet. -/
theorem NormalList.concat {final : Bool} {nodes : List Node} {node : Node}
    (h : NormalList false nodes) (hnode : node.Normal)
    (hmeet : ∀ last ∈ nodes.getLast?, ∀ text content, last = .text text → node ≠ .text content)
    (hbrace : ∀ content, node = .text content →
      content.toList.getLast? = some '\x7b' → final = true) :
    NormalList final (nodes ++ [node]) := by
  induction nodes with
  | nil =>
    exact ⟨hnode, fun content heq => ⟨fun h => ⟨hbrace content heq h, rfl⟩, by simp⟩, trivial⟩
  | cons first rest ih =>
    obtain ⟨hfirst, hends, hrest⟩ := h
    refine ⟨hfirst, fun content heq => ?_, ih hrest fun last hlast => ?_⟩
    · obtain ⟨hlast, hother⟩ := hends content heq
      refine ⟨fun hopen => absurd (hlast hopen).1 Bool.false_ne_true, ?_⟩
      cases rest with
      | nil => simpa using fun text => hmeet first (by simp) content text heq
      | cons second rest => simpa using hother
    · cases rest with
      | nil => simp at hlast
      | cons second rest => exact hmeet last (by simpa using hlast)

/-! ## Names -/

theorem isNamePart_of_start {c : Char} (h : isNameStart c = true) : isNamePart c = true := by
  unfold isNameStart at h
  unfold isNamePart Ascii.isAlphanumeric
  cases hletter : Ascii.isLetter c <;> simp_all

theorem isNamePart_ascii {c : Char} (h : isNamePart c = true) :
    0x30 ≤ c.toNat ∧ c.toNat ≤ 0x39 ∨ 0x41 ≤ c.toNat ∧ c.toNat ≤ 0x5A ∨
      c.toNat = 0x5F ∨ 0x61 ≤ c.toNat ∧ c.toNat ≤ 0x7A := by
  simp only [isNamePart, Ascii.isAlphanumeric, Ascii.isLetter, Ascii.isUpper, Ascii.isDigit,
    Bool.or_eq_true, Bool.and_eq_true, decide_eq_true_eq, beq_iff_eq] at h
  rcases h with (((⟨hlow, hhigh⟩ | ⟨hlow, hhigh⟩) | ⟨hlow, hhigh⟩) | rfl)
  · exact .inr (.inr (.inr ⟨hlow, hhigh⟩))
  · exact .inr (.inl ⟨hlow, hhigh⟩)
  · exact .inl ⟨hlow, hhigh⟩
  · exact .inr (.inr (.inl rfl))

theorem not_isBlank_of_isNamePart {c : Char} (h : isNamePart c = true) : isBlank c = false := by
  have := isNamePart_ascii h
  simp only [isBlank, Bool.or_eq_false_iff, Bool.and_eq_false_iff, decide_eq_false_iff_not,
    beq_eq_false_iff_ne]
  omega

theorem ne_of_isNamePart {c d : Char} (h : isNamePart c = true) (hd : isNamePart d = false) :
    c ≠ d := by
  rintro rfl
  simp [h] at hd

theorem isNamePart_of_mem {name : List Char} (h : isName name = true) {c : Char}
    (hc : c ∈ name) : isNamePart c = true := by
  cases name with
  | nil => simp at hc
  | cons first rest =>
    obtain ⟨hfirst, hrest⟩ := Bool.and_eq_true_iff.1 h
    rcases List.mem_cons.1 hc with rfl | hc
    · exact isNamePart_of_start hfirst
    · exact List.all_eq_true.1 hrest c hc

theorem ne_nil_of_isName {name : List Char} (h : isName name = true) : name ≠ [] := by
  rintro rfl
  simp [isName] at h

theorem not_isBlank_of_isName {name : List Char} (h : isName name = true) {c : Char}
    (hc : c ∈ name) : isBlank c = false :=
  not_isBlank_of_isNamePart (isNamePart_of_mem h hc)

theorem trimChars_of_isName {name : List Char} (h : isName name = true) :
    Blank.trimChars name = name :=
  Blank.trimChars_eq_self (fun _ hc => not_isBlank_of_isName h (List.mem_of_mem_head? hc))
    fun _ hc => not_isBlank_of_isName h (List.mem_of_getLast? hc)

theorem inside_of_isName {name : List Char} (h : isName name = true) :
    ∀ c ∈ name, c ≠ '"' ∧ c ≠ '\x7d' := fun _ hc =>
  ⟨ne_of_isNamePart (isNamePart_of_mem h hc) rfl, ne_of_isNamePart (isNamePart_of_mem h hc) rfl⟩

/-! ## Tags that are written -/

theorem ofBody_function {name : String} (h : isName name.toList = true) (hend : name ≠ "end")
    (helse : name ≠ "else") : Tag.ofBody name.toList = .other name.toList := by
  unfold Tag.ofBody
  rw [trimChars_of_isName h]
  split
  · next heq => exact absurd (String.toList_inj.1 (heq : _ = "end".toList)) hend
  · next heq => exact absurd (String.toList_inj.1 (heq : _ = "else".toList)) helse
  · next rest heq =>
    have hblank := not_isBlank_of_isName h (c := ' ') (by simp [heq])
    simp [isBlank] at hblank
  · rfl

theorem ofBody_if {condition : List Char} (h : isName condition = true) :
    Tag.ofBody ('i' :: 'f' :: ' ' :: condition) = .if_ condition := by
  have hlast : ∀ c ∈ ('i' :: 'f' :: ' ' :: condition).getLast?, isBlank c = false := by
    intro c hc
    rw [List.getLast?_cons_cons, List.getLast?_cons_cons,
      List.getLast?_cons_of_ne_nil (ne_nil_of_isName h)] at hc
    exact not_isBlank_of_isName h (List.mem_of_getLast? hc)
  unfold Tag.ofBody
  rw [Blank.trimChars_eq_self (by simp [isBlank]) hlast]
  simp [trimChars_of_isName h]

theorem ofBody_dotted {text : List Char} (hne : text ≠ [])
    (hlast : ∀ c ∈ text.getLast?, isBlank c = false) :
    Tag.ofBody ('.' :: text) = .other ('.' :: text) := by
  unfold Tag.ofBody
  rw [Blank.trimChars_eq_self (by simp [isBlank])
    (by rwa [List.getLast?_cons_of_ne_nil hne])]
  simp

theorem unescape_cons {c : Char} (hquote : c ≠ '"') (hescape : c ≠ '\\') (rest : List Char) :
    unescape (c :: rest) = (unescape rest).map (c :: ·) := by
  rw [unescape.eq_def]
  split <;> simp_all

theorem unescape_escaped (argument : List Char) :
    unescape (argument.flatMap escaped) = some argument := by
  induction argument with
  | nil => rfl
  | cons c argument ih =>
    rw [List.flatMap_cons, escaped]
    split_ifs with hc
    · rcases (by simpa using hc : c = '"' ∨ c = '\\') with rfl | rfl <;> simp [unescape, ih]
    · obtain ⟨hquote, hescape⟩ := by simpa using hc
      rw [List.singleton_append, unescape_cons hquote hescape, ih]
      rfl

theorem getLast?_argumentChars (argument : List Char) :
    (argumentChars argument).getLast? = some '"' := by
  rw [argumentChars, List.getLast?_concat]

theorem unquote_argumentChars (argument : List Char) :
    unquote (argumentChars argument) = some (String.ofList argument) := by
  simp [unquote, argumentChars, unescape_escaped]

theorem takeWhile_of_isName {name rest : List Char} (h : isName name = true) :
    (name ++ ' ' :: rest).takeWhile (fun c => !isBlank c) = name := by
  rw [List.takeWhile_append_of_pos fun c hc => by simp [not_isBlank_of_isName h hc]]
  simp [isBlank]

theorem dropWhile_of_isName {name rest : List Char} (h : isName name = true) :
    (name ++ ' ' :: rest).dropWhile (fun c => !isBlank c) = ' ' :: rest := by
  rw [List.dropWhile_append_of_pos fun c hc => by simp [not_isBlank_of_isName h hc]]
  simp [isBlank]

theorem dotted_field {name : List Char} (h : isName name = true) :
    dotted name = .ok (.field (String.ofList name)) := by
  have hword : ∀ c ∈ name, (!isBlank c) = true := fun c hc => by simp [not_isBlank_of_isName h hc]
  have htake : name.takeWhile (fun c => !isBlank c) = name := List.takeWhile_eq_self_iff.2 hword
  have hdrop : name.dropWhile (fun c => !isBlank c) = [] := List.dropWhile_eq_nil_iff.2 hword
  simp [dotted, htake, hdrop, h, Blank.trimChars, Blank.dropEndWhile]

theorem dotted_action {name : List Char} (h : isName name = true) (argument : List Char) :
    dotted (name ++ ' ' :: argumentChars argument) =
      .ok (.action (String.ofList name) (String.ofList argument)) := by
  have htrim : Blank.trimChars (' ' :: argumentChars argument) = argumentChars argument := by
    have hself : Blank.trimChars (argumentChars argument) = argumentChars argument :=
      Blank.trimChars_eq_self (by simp [argumentChars, isBlank])
        (by simp [getLast?_argumentChars, isBlank])
    rwa [Blank.trimChars, List.dropWhile_cons_of_pos (by decide)]
  have hempty : (argumentChars argument).isEmpty = false := rfl
  simp [dotted, takeWhile_of_isName h, dropWhile_of_isName h, htrim, h, hempty,
    unquote_argumentChars]

/-! ## Tags that are read -/

theorem dotted_normal {text : List Char} {node : Node} (h : dotted text = .ok node) :
    node.Normal ∧ ∀ content, node ≠ .text content := by
  simp only [dotted] at h
  split_ifs at h with hname hrest
  · obtain rfl := Except.ok.inj h
    exact ⟨by simpa [Node.Normal] using hname, by simp⟩
  · split at h
    · obtain rfl := Except.ok.inj h
      exact ⟨by simpa [Node.Normal] using hname, by simp⟩
    · cases h

theorem placeholder_normal {body : List Char} {node : Node} (h : placeholder body = .ok node)
    (hend : body ≠ "end".toList) (helse : body ≠ "else".toList) :
    node.Normal ∧ ∀ content, node ≠ .text content := by
  unfold placeholder at h
  split at h
  · cases h
  · exact dotted_normal h
  · split_ifs at h with hname
    obtain rfl := Except.ok.inj h
    refine ⟨⟨by simpa using hname, ?_, ?_⟩, by simp⟩
    · rintro heq
      exact hend (by rw [← heq, String.toList_ofList])
    · rintro heq
      exact helse (by rw [← heq, String.toList_ofList])

theorem ofBody_other {body other : List Char} (h : Tag.ofBody body = .other other) :
    other ≠ "end".toList ∧ other ≠ "else".toList := by
  unfold Tag.ofBody at h
  split at h
  · cases h
  · cases h
  · cases h
  · next hend helse _ =>
    obtain rfl := Tag.other.inj h
    exact ⟨hend, helse⟩

end DaemonDialogue.Template
