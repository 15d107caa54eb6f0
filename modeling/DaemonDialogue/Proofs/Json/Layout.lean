import DaemonDialogue.Json.Reader
import DaemonDialogue.Json.Writer
import DaemonDialogue.Proofs.Json.Scalar
import DaemonDialogue.Proofs.Text.Utf8
import Mathlib.Tactic

/-!
# Layouts

Both written forms of a value have the same marks in the same order. They differ in the blanks
between: none at all, or the start of a line in front of everything inside of an array or
object and one blank behind a colon.
-/

namespace DaemonDialogue.Json

/-- The blanks in front of everything at some depth, and behind a colon. -/
structure Layout where
  gap : Nat → List Char
  colon : List Char
  gap_blank : ∀ depth, ∀ c ∈ gap depth, isSpace c = true
  colon_blank : ∀ c ∈ colon, isSpace c = true

namespace Layout

def compact : Layout where
  gap _ := []
  colon := []
  gap_blank _ := by simp
  colon_blank := by simp

/-- Every item on a line of its own. -/
def pretty : Layout where
  gap := newLine
  colon := [' ']
  gap_blank depth c hc := by
    rcases List.mem_cons.1 hc with rfl | hc
    · rfl
    · rw [List.eq_of_mem_replicate hc]
      rfl
  colon_blank := List.forall_mem_singleton.2 rfl

variable (l : Layout)

mutual

/-- A value at some depth. -/
def text (depth : Nat) : Json → List Char
  | .null => chars .null
  | .bool b => chars (.bool b)
  | .integer i => chars (.integer i)
  | .real x => chars (.real x)
  | .string s => chars (.string s)
  | .array [] => ['[', ']']
  | .array (item :: rest) =>
    '[' :: (l.gap (depth + 1) ++ (text (depth + 1) item ++ behindItem depth rest))
  | .object [] => ['\x7b', '\x7d']
  | .object ((name, value) :: rest) =>
    '\x7b' :: (l.gap (depth + 1) ++ (stringChars name ++
      ':' :: (l.colon ++ (text (depth + 1) value ++ behindMember depth rest))))

/-- What is behind an item of an array: the other items and the closing bracket. -/
def behindItem (depth : Nat) : List Json → List Char
  | [] => l.gap depth ++ [']']
  | item :: rest => ',' :: (l.gap (depth + 1) ++ (text (depth + 1) item ++ behindItem depth rest))

/-- What is behind a member of an object: the other members and the closing brace. -/
def behindMember (depth : Nat) : List (String × Json) → List Char
  | [] => l.gap depth ++ ['\x7d']
  | (name, value) :: rest =>
    ',' :: (l.gap (depth + 1) ++ (stringChars name ++
      ':' :: (l.colon ++ (text (depth + 1) value ++ behindMember depth rest))))

end

/-! ## The end of an object -/

theorem getLast?_behindMember (depth : Nat) (rest : List (String × Json)) :
    (l.behindMember depth rest).getLast? = some '\x7d' := by
  induction rest with
  | nil => simp [behindMember]
  | cons m rest ih => simp [behindMember, List.getLast?_append, List.getLast?_cons, ih]

theorem getLast?_object (depth : Nat) (members : List (String × Json)) :
    (l.text depth (.object members)).getLast? = some '\x7d' := by
  cases members with
  | nil => rfl
  | cons m rest =>
    simp [text, List.getLast?_append, List.getLast?_cons, l.getLast?_behindMember depth rest]

/-! ## One line -/

mutual

theorem text_compact (depth : Nat) (v : Json) : compact.text depth v = v.chars := by
  cases v with
  | null => rfl
  | bool b => rfl
  | integer i => rfl
  | real x => rfl
  | string s => rfl
  | array items =>
    cases items with
    | nil => rfl
    | cons item rest =>
      rw [text, chars, text_compact (depth + 1) item, behindItem_compact depth rest item]
      rfl
  | object members =>
    cases members with
    | nil => rfl
    | cons m rest =>
      obtain ⟨name, value⟩ := m
      rw [text, chars, text_compact (depth + 1) value, behindMember_compact depth rest name value]
      rfl

theorem behindItem_compact (depth : Nat) (rest : List Json) (item : Json) :
    itemChars (item :: rest) = item.chars ++ compact.behindItem depth rest := by
  cases rest with
  | nil => rfl
  | cons next rest =>
    rw [behindItem, text_compact (depth + 1) next, itemChars, behindItem_compact depth rest next]
    · rfl
    · simp

theorem behindMember_compact (depth : Nat) (rest : List (String × Json)) (name : String)
    (value : Json) :
    memberChars ((name, value) :: rest) =
      stringChars name ++ ':' :: (value.chars ++ compact.behindMember depth rest) := by
  cases rest with
  | nil => simp [memberChars, behindMember, compact]
  | cons m rest =>
    obtain ⟨next, nextValue⟩ := m
    rw [behindMember, text_compact (depth + 1) nextValue, memberChars,
      behindMember_compact depth rest next nextValue]
    · simp [compact]
    · simp

end

/-! ## Several lines -/

mutual

/-- A value over several lines has every item on a line of its own. -/
theorem text_pretty (depth : Nat) (v : Json) : pretty.text depth v = prettyChars depth v := by
  cases v with
  | null => rfl
  | bool b => rfl
  | integer i => rfl
  | real x => rfl
  | string s => rfl
  | array items =>
    cases items with
    | nil => rfl
    | cons item rest =>
      rw [text, prettyChars, text_pretty (depth + 1) item, List.cons_append, List.cons_append,
        behindItem_pretty depth rest item]
      rfl
  | object members =>
    cases members with
    | nil => rfl
    | cons m rest =>
      obtain ⟨name, value⟩ := m
      rw [text, prettyChars, text_pretty (depth + 1) value, List.cons_append, List.cons_append,
        behindMember_pretty depth rest name value]
      rfl

theorem behindItem_pretty (depth : Nat) (rest : List Json) (item : Json) :
    prettyItems (depth + 1) (item :: rest) ++ newLine depth ++ [']'] =
      newLine (depth + 1) ++ (prettyChars (depth + 1) item ++ pretty.behindItem depth rest) := by
  cases rest with
  | nil => simp [prettyItems, behindItem, pretty]
  | cons next rest =>
    have ih := behindItem_pretty depth rest next
    rw [List.append_assoc] at ih
    rw [behindItem, text_pretty (depth + 1) next, prettyItems]
    · simp [ih, pretty]
    · simp

theorem behindMember_pretty (depth : Nat) (rest : List (String × Json)) (name : String)
    (value : Json) :
    prettyMembers (depth + 1) ((name, value) :: rest) ++ newLine depth ++ ['\x7d'] =
      newLine (depth + 1) ++ (stringChars name ++ ':' :: ' ' ::
        (prettyChars (depth + 1) value ++ pretty.behindMember depth rest)) := by
  cases rest with
  | nil => simp [prettyMembers, behindMember, pretty]
  | cons m rest =>
    obtain ⟨next, nextValue⟩ := m
    have ih := behindMember_pretty depth rest next nextValue
    rw [List.append_assoc] at ih
    rw [behindMember, text_pretty (depth + 1) nextValue, prettyMembers]
    · simp [ih, pretty]
    · simp

end

end Layout
end DaemonDialogue.Json

/-!
## Texts without controls

A value that is written without blanks has no control in its text, whatever its strings hold:
so the text is one line.
-/

namespace DaemonDialogue.Json

theorem visible_digitChar : ∀ n < 16, 0x20 ≤ (Nat.digitChar n).toNat := by
  decide

theorem visible_escape (c : Char) : Visible (escape c) := by
  unfold escape
  split_ifs with h1 h2 h3 h4 h5 h6 h7 h8
  iterate 7 decide
  · have hhigh := visible_digitChar (c.toNat / 16) (by omega)
    have hlow := visible_digitChar (c.toNat % 16) (by omega)
    simpa [Visible] using ⟨hhigh, hlow⟩
  · simpa [Visible] using h8

theorem visible_stringChars (text : String) : Visible (stringChars text) := by
  refine Visible.append (Visible.cons (by decide) fun c hc => ?_) (by decide)
  obtain ⟨d, -, hd⟩ := List.mem_flatMap.1 hc
  exact visible_escape d c hd

theorem visible_toDigits (n : Nat) : Visible (Nat.toDigits 10 n) := by
  intro c hc
  have hdigit : Ascii.isDigit c = true := Numeral.isDigit_of_mem_toDigits hc
  have hlow : '0' ≤ c := of_decide_eq_true (Bool.and_eq_true_iff.1 hdigit).1
  exact le_trans (by decide : 0x20 ≤ '0'.toNat) hlow

theorem visible_integerChars (i : Int) : Visible (integerChars i) := by
  cases i with
  | ofNat n => exact visible_toDigits n
  | negSucc n => exact Visible.cons (by decide) (visible_toDigits (n + 1))

/-! ### Binary numbers -/

theorem visible_toString (i : Int) : Visible (toString i).toList := by
  cases i with
  | ofNat n =>
    have hchars : (toString (Int.ofNat n)).toList = Nat.toDigits 10 n := by
      simp [toString, Int.repr, Nat.repr]
    rw [hchars]
    exact visible_toDigits n
  | negSucc n =>
    have hchars : (toString (Int.negSucc n)).toList = '-' :: Nat.toDigits 10 (n + 1) := by
      simp [toString, Int.repr, Nat.repr]
    rw [hchars]
    exact Visible.cons (by decide) (visible_toDigits (n + 1))

theorem visible_zeros (n : Nat) : Visible (List.replicate n '0') := by
  intro c hc
  rw [List.eq_of_mem_replicate hc]
  decide

theorem visible_exponent (digits exponent : List Char) :
    Visible digits → Visible exponent → Visible (match digits with
      | [c] => c :: 'e' :: exponent
      | c :: rest => c :: '.' :: rest ++ 'e' :: exponent
      | [] => []) := by
  intro hdigits hexponent
  have hmark : Visible ('e' :: exponent) := Visible.cons (by decide) hexponent
  rcases digits with _ | ⟨c, _ | ⟨d, rest⟩⟩
  · exact hdigits
  · exact hdigits.append hmark
  · have hfirst : Visible [c] := hdigits.of_subset (by simp)
    have hrest : Visible (d :: rest) := hdigits.of_subset (by simp)
    exact (hfirst.append (Visible.cons (c := '.') (by decide) hrest)).append hmark

theorem visible_render (x : Binary64) : Visible x.render.toList := by
  have hdigits := visible_toDigits x.shortest.1
  unfold Binary64.render
  dsimp only
  generalize heq : (if x.negative then "-" else "") = sign
  have hsign : Visible sign.toList := by
    subst heq
    split <;> decide
  split_ifs with hzero hwhole hpoint hsmall
  · rw [String.toList_append]
    exact hsign.append (by decide)
  all_goals
    rw [String.toList_append, String.toList_ofList]
    refine hsign.append ?_
  · exact (hdigits.append (visible_zeros _)).append (by decide)
  · exact (hdigits.of_subset (List.take_subset _ _)).append
      (Visible.cons (by decide) (hdigits.of_subset (List.drop_subset _ _)))
  · exact Visible.cons (by decide) (Visible.cons (by decide) ((visible_zeros _).append hdigits))
  · exact visible_exponent _ _ hdigits (Visible.cons (by decide) (visible_toString _))
  · exact visible_exponent _ _ hdigits (visible_toString _)

/-! ### Values -/

mutual

theorem visible_text (depth : Nat) (v : Json) : Visible (Layout.compact.text depth v) := by
  cases v with
  | null => exact (by decide : Visible ['n', 'u', 'l', 'l'])
  | bool b =>
    rw [Layout.text]
    cases b <;> decide
  | integer i => exact visible_integerChars i
  | real x => exact visible_render x
  | string s => exact visible_stringChars s
  | array items =>
    cases items with
    | nil => exact (by decide : Visible ['[', ']'])
    | cons item rest =>
      have hitem := visible_text (depth + 1) item
      exact Visible.cons (c := '[') (by decide) (hitem.append (visible_behindItem depth rest))
  | object members =>
    cases members with
    | nil => exact (by decide : Visible ['\x7b', '\x7d'])
    | cons m rest =>
      obtain ⟨name, value⟩ := m
      have hvalue := visible_text (depth + 1) value
      have hmember := Visible.cons (c := ':') (by decide)
        (hvalue.append (visible_behindMember depth rest))
      exact Visible.cons (c := '\x7b') (by decide) ((visible_stringChars name).append hmember)

theorem visible_behindItem (depth : Nat) (rest : List Json) :
    Visible (Layout.compact.behindItem depth rest) := by
  cases rest with
  | nil => exact (by decide : Visible [']'])
  | cons item rest =>
    have hitem := visible_text (depth + 1) item
    exact Visible.cons (c := ',') (by decide) (hitem.append (visible_behindItem depth rest))

theorem visible_behindMember (depth : Nat) (rest : List (String × Json)) :
    Visible (Layout.compact.behindMember depth rest) := by
  cases rest with
  | nil => exact (by decide : Visible ['\x7d'])
  | cons m rest =>
    obtain ⟨name, value⟩ := m
    have hvalue := visible_text (depth + 1) value
    have hmember := Visible.cons (c := ':') (by decide)
      (hvalue.append (visible_behindMember depth rest))
    exact Visible.cons (c := ',') (by decide) ((visible_stringChars name).append hmember)

end

theorem visible_compact (v : Json) : Visible v.compact.toList := by
  rw [Json.compact, String.toList_ofList, ← Layout.text_compact 0 v]
  exact visible_text 0 v

end DaemonDialogue.Json
