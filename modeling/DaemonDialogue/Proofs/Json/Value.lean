import DaemonDialogue.Json.Decode
import DaemonDialogue.Proofs.Json.Layout
import DaemonDialogue.Proofs.Json.Scalar

/-!
# Written values

A value without binary numbers is read from its text as what was written, whatever blanks its
layout puts between, if its integers fit into 64 bits and it is not nested too deep. Every step of
the reader takes at least one character, so that as many steps as there are characters are enough.
-/

namespace DaemonDialogue.Json

mutual

def draft : Json → Draft
  | .null => .null
  | .bool b => .bool b
  | .integer i => .integer i
  | .real x => .real x
  | .string s => .string s
  | .array items => .array (itemDrafts items)
  | .object members => .object (memberDrafts members)

def itemDrafts : List Json → List Draft
  | [] => []
  | item :: rest => item.draft :: itemDrafts rest

def memberDrafts : List (String × Json) → List (Option String × Draft)
  | [] => []
  | (name, value) :: rest => (some name, value.draft) :: memberDrafts rest

end

mutual

/-- Can a value be read from its text, if it is nested at most `room` deep? -/
def Readable : Json → Nat → Prop
  | .null, _ => True
  | .bool _, _ => True
  | .integer i, _ => Exact i
  | .real _, _ => False
  | .string _, _ => True
  | .array items, room => 0 < room ∧ ReadableItems items (room - 1)
  | .object members, room => 0 < room ∧ ReadableMembers members (room - 1)

def ReadableItems : List Json → Nat → Prop
  | [], _ => True
  | item :: rest, room => item.Readable room ∧ ReadableItems rest room

def ReadableMembers : List (String × Json) → Nat → Prop
  | [], _ => True
  | (_, value) :: rest, room => value.Readable room ∧ ReadableMembers rest room

end

mutual

theorem value?_draft (v : Json) : v.draft.value? = some v := by
  cases v with
  | null => rfl
  | bool b => rfl
  | integer i => rfl
  | real x => rfl
  | string s => rfl
  | array items => rw [draft, Draft.value?, itemValues?_drafts items, Option.map_some]
  | object members => rw [draft, Draft.value?, memberValues?_drafts members, Option.map_some]

theorem itemValues?_drafts (items : List Json) :
    Draft.itemValues? (itemDrafts items) = some items := by
  cases items with
  | nil => rfl
  | cons item rest =>
    rw [itemDrafts, Draft.itemValues?, value?_draft item, itemValues?_drafts rest]

theorem memberValues?_drafts (members : List (String × Json)) :
    Draft.memberValues? (memberDrafts members) = some members := by
  cases members with
  | nil => rfl
  | cons m rest =>
    obtain ⟨name, value⟩ := m
    simp [memberDrafts, Draft.memberValues?, value?_draft value, memberValues?_drafts rest]

end

/-- Is a character none that a value or what closes one can be mistaken for? -/
def Opens (c : Char) : Prop := isSpace c = false ∧ c ≠ ']' ∧ c ≠ '\x7d'

instance (c : Char) : Decidable (Opens c) := inferInstanceAs (Decidable (_ ∧ _))

theorem integerChars_opens (i : Int) :
    ∃ c rest, integerChars i = c :: rest ∧ Opens c ∧ c ≠ '[' ∧ c ≠ '\x7b' := by
  cases i with
  | ofNat n =>
    cases hchars : Nat.toDigits 10 n with
    | nil => exact absurd hchars Nat.toDigits_ne_nil
    | cons c rest =>
      have hc : Ascii.isDigit c = true := Numeral.isDigit_of_mem_toDigits (n := n) (by simp [hchars])
      have hne : ∀ d, Ascii.isDigit d = false → c ≠ d := by
        rintro d hd rfl
        simp [hc] at hd
      have hspace : isSpace c = false := by
        simp only [isSpace, Bool.or_eq_false_iff, beq_eq_false_iff_ne]
        exact ⟨⟨⟨hne _ rfl, hne _ rfl⟩, hne _ rfl⟩, hne _ rfl⟩
      exact ⟨c, rest, hchars, ⟨hspace, hne _ rfl, hne _ rfl⟩, hne _ rfl, hne _ rfl⟩
  | negSucc n => exact ⟨_, _, rfl, by decide⟩

theorem text_opens (l : Layout) (depth : Nat) (v : Json) {room : Nat} (h : v.Readable room) :
    ∃ c rest, l.text depth v = c :: rest ∧ Opens c := by
  cases v with
  | null => exact ⟨_, _, rfl, by decide⟩
  | bool b => cases b <;> exact ⟨_, _, rfl, by decide⟩
  | integer i =>
    obtain ⟨c, rest, hchars, hopens, -⟩ := integerChars_opens i
    exact ⟨c, rest, hchars, hopens⟩
  | real x => exact h.elim
  | string s => exact ⟨_, _, rfl, by decide⟩
  | array items => cases items <;> exact ⟨_, _, rfl, by decide⟩
  | object members => cases members <;> exact ⟨_, _, rfl, by decide⟩

/-! ## Steps -/

section Steps

variable (bound fuel depth : Nat) (stack : List Open) {gap : List Char}

theorem skipSpace_cons {c : Char} (rest : List Char) (h : isSpace c = false) :
    skipSpace (c :: rest) = c :: rest := by
  simp [skipSpace, h]

/-- Every step passes over the blanks in front of it. -/
theorem readOn_gap (hgap : ∀ c ∈ gap, isSpace c = true) (value : Option Draft)
    (text : List Char) :
    readOn bound fuel depth stack value (gap ++ text) =
      readOn bound fuel depth stack value text := by
  cases fuel with
  | zero => rfl
  | succ fuel => simp only [readOn, skipSpace_append hgap]

theorem readOn_scalar {c : Char} {rest behind : List Char} {d : Draft} (hspace : isSpace c = false)
    (harray : c ≠ '[') (hobject : c ≠ '\x7b')
    (hread : readScalar fuel (c :: rest) = some (d, behind)) :
    readOn bound (fuel + 1) depth stack none (c :: rest) =
      readOn bound fuel depth stack (some d) behind := by
  have hskip := skipSpace_cons rest hspace
  rw [readOn.eq_4 bound depth _ fuel stack (by simp [hskip, harray]) (by simp [hskip, hobject]),
    hskip, hread]

theorem readOn_emptyArray (rest : List Char) :
    readOn bound (fuel + 1) depth stack none ('[' :: ']' :: rest) =
      readOn bound fuel depth stack (some (nested bound depth (.array []))) rest := rfl

theorem readOn_array (hgap : ∀ c ∈ gap, isSpace c = true) {c : Char} {rest : List Char}
    (hspace : isSpace c = false) (hclose : c ≠ ']') :
    readOn bound (fuel + 1) depth stack none ('[' :: (gap ++ c :: rest)) =
      readOn bound fuel (depth + 1) (.array [] :: stack) none (c :: rest) := by
  rw [readOn.eq_2 bound depth _ fuel stack _ (skipSpace_cons _ (by decide)),
    skipSpace_append hgap, skipSpace_cons _ hspace]
  split <;> simp_all

theorem readOn_emptyObject (rest : List Char) :
    readOn bound (fuel + 1) depth stack none ('\x7b' :: '\x7d' :: rest) =
      readOn bound fuel depth stack (some (nested bound depth (.object []))) rest := rfl

theorem readOn_object (hgap : ∀ c ∈ gap, isSpace c = true) (name : String) (rest : List Char)
    (h : name.toList.length < fuel) :
    readOn bound (fuel + 1) depth stack none
        ('\x7b' :: (gap ++ (stringChars name ++ ':' :: rest))) =
      readOn bound fuel (depth + 1) (.object [] (some name) :: stack) none rest := by
  have hread : readName fuel ([] ++ (stringChars name ++ ':' :: rest)) = some (some name, rest) :=
    readName_string (by simp) name rest h
  rw [List.nil_append] at hread
  rw [readOn.eq_3 bound depth _ fuel stack _ (skipSpace_cons _ (by decide)),
    skipSpace_append hgap]
  rw [stringChars_append] at hread ⊢
  rw [skipSpace_cons _ (by decide)]
  split
  · next heq => simp at heq
  · rw [hread]

theorem readOn_nextItem (d : Draft) (items : List Draft) (rest : List Char) :
    readOn bound (fuel + 1) depth (.array items :: stack) (some d) (',' :: rest) =
      readOn bound fuel depth (.array (d :: items) :: stack) none rest := rfl

theorem readOn_closeArray (d : Draft) (items : List Draft) (rest : List Char) :
    readOn bound (fuel + 1) (depth + 1) (.array items :: stack) (some d) (']' :: rest) =
      readOn bound fuel depth stack
        (some (nested bound depth (.array (d :: items).reverse))) rest := rfl

theorem readOn_nextMember (hgap : ∀ c ∈ gap, isSpace c = true) (d : Draft)
    (members : List (Option String × Draft)) (last : Option String) (name : String)
    (rest : List Char) (h : name.toList.length < fuel) :
    readOn bound (fuel + 1) depth (.object members last :: stack) (some d)
        (',' :: (gap ++ (stringChars name ++ ':' :: rest))) =
      readOn bound fuel depth (.object ((last, d) :: members) (some name) :: stack) none rest := by
  rw [readOn.eq_8 bound depth _ fuel d members last stack _ (skipSpace_cons _ (by decide)),
    readName_string hgap name rest h]

theorem readOn_closeObject (d : Draft) (members : List (Option String × Draft))
    (last : Option String) (rest : List Char) :
    readOn bound (fuel + 1) (depth + 1) (.object members last :: stack) (some d) ('\x7d' :: rest) =
      readOn bound fuel depth stack
        (some (nested bound depth (.object ((last, d) :: members).reverse))) rest := rfl

end Steps

/-! ## Values -/

section Values

variable (l : Layout)

theorem ends_gap {gap : List Char} (hgap : ∀ c ∈ gap, isSpace c = true) {rest : List Char}
    (h : Ends rest) : Ends (gap ++ rest) := by
  cases gap with
  | nil => exact h
  | cons c gap => exact ends_cons _ (endsNumber_of_isSpace (hgap c List.mem_cons_self))

theorem ends_behindItem (depth : Nat) (rest : List Json) (behind : List Char) :
    Ends (l.behindItem depth rest ++ behind) := by
  cases rest with
  | nil =>
    rw [Layout.behindItem, List.append_assoc]
    exact ends_gap (l.gap_blank depth) (ends_cons _ (by decide))
  | cons item rest => exact ends_cons _ (by decide)

theorem ends_behindMember (depth : Nat) (rest : List (String × Json)) (behind : List Char) :
    Ends (l.behindMember depth rest ++ behind) := by
  cases rest with
  | nil =>
    rw [Layout.behindMember, List.append_assoc]
    exact ends_gap (l.gap_blank depth) (ends_cons _ (by decide))
  | cons m rest => exact ends_cons _ (by decide)

theorem nested_of_room {bound depth : Nat} (h : 0 < bound - depth) (d : Draft) :
    nested bound depth d = d := by
  rw [nested, if_pos (by omega)]

/-- Is a text read up to what is behind it, with steps to spare, as a given value? -/
def Reads (bound depth : Nat) (text : List Char) (d : Draft) : Prop :=
  ∀ (stack : List Open) (fuel : Nat) (rest : List Char), Ends rest → (text ++ rest).length < fuel →
    ∃ left, rest.length < left ∧ readOn bound fuel depth stack none (text ++ rest) =
      readOn bound left depth stack (some d) rest

theorem reads_scalar (bound depth : Nat) {c : Char} {text : List Char} {d : Draft}
    (hspace : isSpace c = false) (harray : c ≠ '[') (hobject : c ≠ '\x7b')
    (hread : ∀ fuel rest, Ends rest → text.length < fuel →
      readScalar fuel (c :: text ++ rest) = some (d, rest)) :
    Reads bound depth (c :: text) d := by
  intro stack fuel rest hends hfuel
  obtain ⟨left, rfl⟩ := Nat.exists_eq_add_one_of_ne_zero (Nat.ne_zero_of_lt hfuel)
  have hleft : rest.length < left ∧ text.length < left := by
    simp only [List.length_append, List.length_cons] at hfuel
    omega
  exact ⟨left, hleft.1,
    readOn_scalar bound left depth stack hspace harray hobject (hread left rest hends hleft.2)⟩

/-- Where a reader stands: how deep, in which open values, and behind which value, if any. -/
structure Stand where
  depth : Nat
  stack : List Open
  value : Option Draft

/-- Does a text lead a reader from one place to another, with steps to spare for what is behind? -/
def Leads (bound : Nat) (text : List Char) (a b : Stand) : Prop :=
  ∀ (fuel : Nat) (rest : List Char), Ends rest → (text ++ rest).length < fuel →
    ∃ left, rest.length < left ∧ readOn bound fuel a.depth a.stack a.value (text ++ rest) =
      readOn bound left b.depth b.stack b.value rest

namespace Leads

variable {bound depth : Nat} {stack : List Open} {front text gap : List Char} {a b c : Stand}

theorem refl (bound : Nat) (a : Stand) : Leads bound [] a a :=
  fun fuel _ _ hfuel => ⟨fuel, hfuel, rfl⟩

theorem trans (h : Leads bound front a b) (hends : ∀ rest, Ends (text ++ rest))
    (h' : Leads bound text b c) : Leads bound (front ++ text) a c := by
  intro fuel rest hrest hfuel
  rw [List.append_assoc] at hfuel ⊢
  obtain ⟨left, hleft, hread⟩ := h fuel (text ++ rest) (hends rest) hfuel
  obtain ⟨last, hlast, hreads⟩ := h' left rest hrest hleft
  exact ⟨last, hlast, hread.trans hreads⟩

theorem behindGap (h : Leads bound text a b) (hgap : ∀ c ∈ gap, isSpace c = true) :
    Leads bound (gap ++ text) a b := by
  intro fuel rest hrest hfuel
  rw [List.append_assoc] at hfuel ⊢
  rw [readOn_gap bound fuel a.depth a.stack hgap]
  refine h fuel rest hrest ?_
  rw [List.length_append] at hfuel
  omega

/-- A single step passes over what stands in front of a text; it has as many steps left as there are
characters at least. -/
theorem behindStep (h : Leads bound text b c) (hfront : front ≠ [])
    (hstep : ∀ fuel rest, (front ++ text).length ≤ fuel →
      readOn bound (fuel + 1) a.depth a.stack a.value (front ++ (text ++ rest)) =
        readOn bound fuel b.depth b.stack b.value (text ++ rest)) :
    Leads bound (front ++ text) a c := by
  intro fuel rest hrest hfuel
  obtain ⟨fuel, rfl⟩ := Nat.exists_eq_add_one_of_ne_zero (Nat.ne_zero_of_lt hfuel)
  have hlength := List.length_pos_iff.2 hfront
  simp only [List.length_append] at hfuel
  obtain ⟨left, hleft, hread⟩ := h fuel rest hrest (by rw [List.length_append]; omega)
  refine ⟨left, hleft, ?_⟩
  rw [List.append_assoc, hstep fuel rest (by rw [List.length_append]; omega), hread]

theorem of_step (hfront : front ≠ [])
    (hstep : ∀ fuel rest, readOn bound (fuel + 1) a.depth a.stack a.value (front ++ rest) =
      readOn bound fuel b.depth b.stack b.value rest) : Leads bound front a b := by
  have h := (refl bound b).behindStep hfront fun fuel rest _ => hstep fuel rest
  rwa [List.append_nil] at h

theorem emptyArray :
    Leads bound ['[', ']'] ⟨depth, stack, none⟩
      ⟨depth, stack, some (nested bound depth (.array []))⟩ :=
  of_step (List.cons_ne_nil _ _) fun fuel rest => readOn_emptyArray bound fuel depth stack rest

theorem behindBracket (h : Leads bound text ⟨depth + 1, .array [] :: stack, none⟩ a)
    (hgap : ∀ c ∈ gap, isSpace c = true) (hopens : ∃ c rest, text = c :: rest ∧ Opens c) :
    Leads bound ('[' :: (gap ++ text)) ⟨depth, stack, none⟩ a := by
  obtain ⟨c, rest, rfl, hspace, hclose, -⟩ := hopens
  refine h.behindStep (List.cons_ne_nil '[' gap) fun fuel behind _ => ?_
  exact readOn_array bound fuel depth stack hgap hspace hclose

theorem behindComma {done : List Draft} {d : Draft}
    (h : Leads bound text ⟨depth, .array (d :: done) :: stack, none⟩ a) :
    Leads bound (',' :: text) ⟨depth, .array done :: stack, some d⟩ a :=
  h.behindStep (List.cons_ne_nil ',' []) fun fuel rest _ =>
    readOn_nextItem bound fuel depth stack d done (text ++ rest)

theorem closeArray (done : List Draft) (d : Draft) :
    Leads bound [']'] ⟨depth + 1, .array done :: stack, some d⟩
      ⟨depth, stack, some (nested bound depth (.array (d :: done).reverse))⟩ :=
  of_step (List.cons_ne_nil _ _) fun fuel rest =>
    readOn_closeArray bound fuel depth stack d done rest

theorem emptyObject :
    Leads bound ['\x7b', '\x7d'] ⟨depth, stack, none⟩
      ⟨depth, stack, some (nested bound depth (.object []))⟩ :=
  of_step (List.cons_ne_nil _ _) fun fuel rest => readOn_emptyObject bound fuel depth stack rest

/-- A mark, the name of a member and its colon, if a step passes over all three. -/
theorem behindName {mark : Char} {name : String} (h : Leads bound text b c)
    (hstep : ∀ fuel rest, name.toList.length < fuel →
      readOn bound (fuel + 1) a.depth a.stack a.value
          (mark :: (gap ++ (stringChars name ++ ':' :: rest))) =
        readOn bound fuel b.depth b.stack b.value rest) :
    Leads bound (mark :: (gap ++ (stringChars name ++ ':' :: text))) a c := by
  have hfront : mark :: (gap ++ (stringChars name ++ ':' :: text)) =
      mark :: (gap ++ (stringChars name ++ [':'])) ++ text := by
    simp
  rw [hfront]
  refine h.behindStep (List.cons_ne_nil _ _) fun fuel rest hfuel => ?_
  have hname := length_le_stringChars name
  simp only [List.length_append, List.length_cons] at hfuel
  have hread := hstep fuel (text ++ rest) (by omega)
  simpa using hread

theorem closeObject (done : List (Option String × Draft)) (name : Option String) (d : Draft) :
    Leads bound ['\x7d'] ⟨depth + 1, .object done name :: stack, some d⟩
      ⟨depth, stack, some (nested bound depth (.object ((name, d) :: done).reverse))⟩ :=
  of_step (List.cons_ne_nil _ _) fun fuel rest =>
    readOn_closeObject bound fuel depth stack d done name rest

end Leads

theorem reads_iff_leads {bound depth : Nat} {text : List Char} {d : Draft} :
    Reads bound depth text d ↔
      ∀ stack, Leads bound text ⟨depth, stack, none⟩ ⟨depth, stack, some d⟩ :=
  Iff.rfl

mutual

/-- A value is read from its text. -/
theorem reads_text (bound depth : Nat) (v : Json) (h : v.Readable (bound - depth)) :
    Reads bound depth (l.text depth v) v.draft := by
  cases v with
  | null => exact reads_scalar bound depth rfl (by decide) (by decide) fun _ _ _ _ => rfl
  | bool b =>
    cases b
    · exact reads_scalar bound depth rfl (by decide) (by decide) fun _ _ _ _ => rfl
    · exact reads_scalar bound depth rfl (by decide) (by decide) fun _ _ _ _ => rfl
  | integer i =>
    obtain ⟨c, text, hchars, ⟨hspace, -, -⟩, harray, hobject⟩ := integerChars_opens i
    rw [Layout.text, chars, hchars]
    refine reads_scalar bound depth hspace harray hobject fun fuel rest hends _ => ?_
    rw [← hchars]
    exact readScalar_integer fuel hends h
  | real x => exact h.elim
  | string s =>
    refine reads_scalar bound depth (by decide) (by decide) (by decide) fun fuel rest _ hfuel => ?_
    refine readScalar_string s rest ?_
    have hlength := length_le_stringChars s
    rw [stringChars, List.cons_append, List.length_cons] at hlength
    exact Nat.lt_of_le_of_lt (Nat.le_of_lt_succ hlength) hfuel
  | array items =>
    obtain ⟨hroom, hitems⟩ := h
    refine reads_iff_leads.2 fun stack => ?_
    rw [draft, ← nested_of_room hroom (.array (itemDrafts items))]
    cases items with
    | nil => exact Leads.emptyArray
    | cons item items =>
      obtain ⟨hitem, hitems⟩ := hitems
      obtain ⟨c, text, htext, hopens⟩ := text_opens l (depth + 1) item hitem
      have hitem := reads_iff_leads.1 (reads_text bound (depth + 1) item hitem) (.array [] :: stack)
      have hbehind := leads_behindItem bound depth items hitems [] item.draft stack
      have hread := hitem.trans (ends_behindItem l depth items) hbehind
      exact hread.behindBracket (l.gap_blank _) ⟨c, _, congrArg (· ++ _) htext, hopens⟩
  | object members =>
    obtain ⟨hroom, hmembers⟩ := h
    refine reads_iff_leads.2 fun stack => ?_
    rw [draft, ← nested_of_room hroom (.object (memberDrafts members))]
    cases members with
    | nil => exact Leads.emptyObject
    | cons m members =>
      obtain ⟨name, value⟩ := m
      obtain ⟨hvalue, hmembers⟩ := hmembers
      have hvalue := reads_iff_leads.1 (reads_text bound (depth + 1) value hvalue)
        (.object [] (some name) :: stack)
      have hbehind :=
        leads_behindMember bound depth members hmembers [] (some name) value.draft stack
      have hread := hvalue.trans (ends_behindMember l depth members) hbehind
      exact (hread.behindGap l.colon_blank).behindName fun fuel rest =>
        readOn_object bound fuel depth stack (l.gap_blank _) name rest

theorem leads_behindItem (bound depth : Nat) (items : List Json)
    (h : ReadableItems items (bound - (depth + 1))) (done : List Draft) (d : Draft)
    (stack : List Open) :
    Leads bound (l.behindItem depth items) ⟨depth + 1, .array done :: stack, some d⟩
      ⟨depth, stack,
        some (nested bound depth (.array ((d :: done).reverse ++ itemDrafts items)))⟩ := by
  cases items with
  | nil =>
    rw [itemDrafts, List.append_nil]
    exact (Leads.closeArray done d).behindGap (l.gap_blank depth)
  | cons item items =>
    obtain ⟨hitem, hitems⟩ := h
    have hdrafts : (d :: done).reverse ++ itemDrafts (item :: items) =
        (item.draft :: d :: done).reverse ++ itemDrafts items := by
      simp [itemDrafts]
    rw [hdrafts]
    have hitem := reads_iff_leads.1 (reads_text bound (depth + 1) item hitem)
      (.array (d :: done) :: stack)
    have hbehind := leads_behindItem bound depth items hitems (d :: done) item.draft stack
    have hread := hitem.trans (ends_behindItem l depth items) hbehind
    exact (hread.behindGap (l.gap_blank (depth + 1))).behindComma

theorem leads_behindMember (bound depth : Nat) (members : List (String × Json))
    (h : ReadableMembers members (bound - (depth + 1))) (done : List (Option String × Draft))
    (name : Option String) (d : Draft) (stack : List Open) :
    Leads bound (l.behindMember depth members) ⟨depth + 1, .object done name :: stack, some d⟩
      ⟨depth, stack, some (nested bound depth
        (.object (((name, d) :: done).reverse ++ memberDrafts members)))⟩ := by
  cases members with
  | nil =>
    rw [memberDrafts, List.append_nil]
    exact (Leads.closeObject done name d).behindGap (l.gap_blank depth)
  | cons m members =>
    obtain ⟨next, value⟩ := m
    obtain ⟨hvalue, hmembers⟩ := h
    have hdrafts : ((name, d) :: done).reverse ++ memberDrafts ((next, value) :: members) =
        ((some next, value.draft) :: (name, d) :: done).reverse ++ memberDrafts members := by
      simp [memberDrafts]
    rw [hdrafts]
    have hvalue := reads_iff_leads.1 (reads_text bound (depth + 1) value hvalue)
      (.object ((name, d) :: done) (some next) :: stack)
    have hbehind := leads_behindMember bound depth members hmembers ((name, d) :: done) (some next)
      value.draft stack
    have hread := hvalue.trans (ends_behindMember l depth members) hbehind
    exact (hread.behindGap l.colon_blank).behindName fun fuel rest =>
      readOn_nextMember bound fuel (depth + 1) stack (l.gap_blank _) d done name next rest

end

theorem readDraft_text {bound : Nat} {v : Json} (h : v.Readable bound) :
    readDraft bound (l.text 0 v) = some v.draft := by
  obtain ⟨left, hleft, hread⟩ := reads_text l bound 0 v h [] ((l.text 0 v).length + 2) []
    (by simp [Ends]) (by simp)
  obtain ⟨left, rfl⟩ := Nat.exists_eq_add_one_of_ne_zero (Nat.ne_zero_of_lt hleft)
  rw [List.append_nil] at hread
  rw [readDraft, hread, readOn.eq_5]
  rfl

end Values

theorem decode_text {α : Type} {read : Draft → Decoded α} {v : Json} {value : α}
    (h : v.Readable maxDepth) (hread : read v.draft = .ok value) (l : Layout) :
    decode read (String.ofList (l.text 0 v)) = .ok value := by
  rw [decode, String.toList_ofList, readDraft_text l h]
  simp only [hread]

theorem decode_compact {α : Type} {read : Draft → Decoded α} {v : Json} {value : α}
    (h : v.Readable maxDepth) (hread : read v.draft = .ok value) :
    decode read v.compact = .ok value := by
  rw [compact, ← Layout.text_compact 0 v]
  exact decode_text h hread .compact

theorem decode_pretty {α : Type} {read : Draft → Decoded α} {v : Json} {value : α}
    (h : v.Readable maxDepth) (hread : read v.draft = .ok value) :
    decode read v.pretty = .ok value := by
  rw [pretty, ← Layout.text_pretty 0 v]
  exact decode_text h hread .pretty

end DaemonDialogue.Json
