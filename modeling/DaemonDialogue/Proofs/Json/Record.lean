import DaemonDialogue.Json.Basic
import DaemonDialogue.Json.Decode
import Mathlib.Data.List.Forall2
import Mathlib.Data.String.Basic
import Mathlib.Tactic

/-!
# Records as they are written

An object with one member for each field, in the order of the fields, has the values of its
members, if they suit the fields.
-/

namespace DaemonDialogue.Json

variable {fields : List Field}

/-- Is a member that of a field, with a value that suits it? -/
def Suits (field : Field) (m : String × Draft) : Prop :=
  field.name = m.1 ∧ field.judge m.2 = .ok ()

theorem meantMembers_some (members : List (String × Draft)) :
    meantMembers (members.map fun m => (some m.1, m.2)) = .ok members := by
  induction members with
  | nil => rfl
  | cons m rest ih =>
    unfold meantMembers at ih ⊢
    rw [List.map_cons, List.mapM_cons, ih]
    rfl

theorem find?_name (hnames : (fields.map Field.name).Nodup) {field : Field} (h : field ∈ fields) :
    (fields.find? fun f => f.name == field.name) = some field := by
  induction fields with
  | nil => simp at h
  | cons first rest ih =>
    obtain ⟨hfirst, hrest⟩ := List.nodup_cons.1 hnames
    rcases List.mem_cons.1 h with rfl | h
    · simp
    · have hne : first.name ≠ field.name := fun heq =>
        hfirst (heq ▸ List.mem_map_of_mem h)
      rw [List.find?_cons_of_neg (by simpa using hne), ih hrest h]

theorem judgeMembers_ok (hnames : (fields.map Field.name).Nodup) {seen : List String}
    {members : List (String × Draft)} (hmembers : (members.map Prod.fst).Nodup)
    (hseen : ∀ m ∈ members, m.1 ∉ seen) (h : ∀ m ∈ members, ∃ field ∈ fields, Suits field m) :
    judgeMembers fields seen members = .ok () := by
  induction members generalizing seen with
  | nil => rfl
  | cons m rest ih =>
    obtain ⟨name, value⟩ := m
    obtain ⟨hname, hrest⟩ := List.nodup_cons.1 hmembers
    obtain ⟨field, hfield, rfl, hjudge⟩ := h _ List.mem_cons_self
    have hnew : field.name ∉ seen := hseen _ List.mem_cons_self
    rw [judgeMembers, find?_name hnames hfield]
    dsimp only at hjudge ⊢
    rw [if_neg (by simpa using hnew), hjudge]
    refine ih hrest (fun m hm => ?_) fun m hm => h m (List.mem_cons_of_mem _ hm)
    rw [List.mem_cons, not_or]
    refine ⟨fun heq => hname ?_, hseen m (List.mem_cons_of_mem _ hm)⟩
    exact List.mem_map.2 ⟨m, hm, heq⟩

theorem lookup_member {members : List (String × Draft)} (hmembers : (members.map Prod.fst).Nodup)
    {m : String × Draft} (h : m ∈ members) : members.lookup m.1 = some m.2 := by
  induction members with
  | nil => simp at h
  | cons first rest ih =>
    obtain ⟨hfirst, hrest⟩ := List.nodup_cons.1 hmembers
    obtain ⟨name, value⟩ := first
    rcases List.mem_cons.1 h with rfl | h
    · rw [List.lookup_cons_self]
    · have hne : m.1 ≠ name := fun heq => hfirst (List.mem_map.2 ⟨m, h, heq⟩)
      rw [List.lookup_cons, beq_false_of_ne hne]
      exact ih hrest h

theorem fieldValues_ok {members : List (String × Draft)} {values : List Draft}
    (h : List.Forall₂ (fun field v => (members.lookup field.name).or field.fallback = some v)
      fields values) :
    fieldValues members fields = .ok values := by
  induction h with
  | nil => rfl
  | cons hfield _ ih =>
    rw [fieldValues, hfield, ih]
    rfl

theorem exists_suits {members : List (String × Draft)} (h : List.Forall₂ Suits fields members) :
    ∀ m ∈ members, ∃ field ∈ fields, Suits field m := by
  induction h with
  | nil => simp
  | cons hfirst _ ih =>
    intro m hm
    rcases List.mem_cons.1 hm with rfl | hm
    · exact ⟨_, List.mem_cons_self, hfirst⟩
    · obtain ⟨field, hfield, hsuits⟩ := ih m hm
      exact ⟨field, List.mem_cons_of_mem _ hfield, hsuits⟩

theorem record_values (how : Reading) (title : String) (hnames : (fields.map Field.name).Nodup)
    {members : List (String × Draft)} {values : List Draft}
    (hmembers : (members.map Prod.fst).Nodup)
    (hsuits : ∀ m ∈ members, ∃ field ∈ fields, Suits field m)
    (h : List.Forall₂ (fun field v => (members.lookup field.name).or field.fallback = some v)
      fields values) :
    record how title fields (.object (members.map fun m => (some m.1, m.2))) = .ok values := by
  have hjudge : judgeMembers fields [] members = .ok () :=
    judgeMembers_ok hnames hmembers (by simp) hsuits
  rw [record, meantMembers_some]
  change (do
    judgeMembers fields [] members
    fieldValues members fields) = _
  rw [hjudge]
  exact fieldValues_ok h

theorem record_members (how : Reading) (title : String) (hnames : (fields.map Field.name).Nodup)
    (members : List (String × Draft)) (h : List.Forall₂ Suits fields members) :
    record how title fields (.object (members.map fun m => (some m.1, m.2))) =
      .ok (members.map Prod.snd) := by
  have hsame : fields.map Field.name = members.map Prod.fst := by
    rw [← List.forall₂_eq_eq_eq, List.forall₂_map_left_iff, List.forall₂_map_right_iff]
    exact h.imp fun _ _ hsuits => hsuits.1
  have hmembers : (members.map Prod.fst).Nodup := hsame ▸ hnames
  refine record_values how title hnames hmembers (exists_suits h) ?_
  rw [List.forall₂_map_right_iff]
  refine List.forall₂_iff_zip.2 ⟨h.length_eq, fun hzip => ?_⟩
  rw [(List.forall₂_zip h hzip).1, lookup_member hmembers (List.of_mem_zip hzip).2,
    Option.some_or]

/-! ## Numbers -/

theorem unsigned_integer {kind : String} {bound n : Nat} (h : n ≤ bound) :
    unsigned kind bound (.integer n) = .ok n := by
  have hrange : (0 : Int) ≤ n ∧ (n : Int) ≤ bound := by omega
  rw [unsigned, if_pos hrange, Int.toNat_natCast]

end DaemonDialogue.Json

/-!
## Values as mappings

The members of an object that are sorted by name, each name once, are those of a mapping. A
value with such objects only is its own canonical form.
-/

namespace DaemonDialogue.Json

mutual

/-- Are the members of all objects within a value sorted by name, each name once? -/
def Ordered : Json → Prop
  | .array items => OrderedItems items
  | .object members => (members.map Prod.fst).Pairwise (· < ·) ∧ OrderedMembers members
  | .null => True
  | .bool _ => True
  | .integer _ => True
  | .real _ => True
  | .string _ => True

def OrderedItems : List Json → Prop
  | [] => True
  | item :: rest => item.Ordered ∧ OrderedItems rest

def OrderedMembers : List (String × Json) → Prop
  | [] => True
  | (_, value) :: rest => value.Ordered ∧ OrderedMembers rest

end

theorem insertMember_last (name : String) (value : Json) {sorted : List (String × Json)}
    (h : ∀ other ∈ sorted.map Prod.fst, other < name) :
    insertMember name value sorted = sorted ++ [(name, value)] := by
  induction sorted with
  | nil => rfl
  | cons m rest ih =>
    obtain ⟨other, kept⟩ := m
    have hother : other < name := h other (by simp)
    rw [insertMember, if_neg (by simpa using hother.ne'), if_neg hother.not_gt,
      ih fun next hnext => h next (List.mem_cons_of_mem _ hnext)]
    rfl

mutual

theorem canonical_of_ordered (v : Json) (h : v.Ordered) : v.canonical = v := by
  cases v with
  | null => rfl
  | bool b => rfl
  | integer i => rfl
  | real x => rfl
  | string s => rfl
  | array items => rw [canonical, canonicalItems_of_ordered items h]
  | object members =>
    obtain ⟨hsorted, hmembers⟩ := h
    rw [canonical, canonicalMembers_of_ordered members hmembers [] hsorted, List.nil_append]

theorem canonicalItems_of_ordered (items : List Json) (h : OrderedItems items) :
    canonicalItems items = items := by
  cases items with
  | nil => rfl
  | cons item rest =>
    rw [canonicalItems, canonical_of_ordered item h.1, canonicalItems_of_ordered rest h.2]

theorem canonicalMembers_of_ordered (members : List (String × Json)) (h : OrderedMembers members)
    (sorted : List (String × Json))
    (hsorted : ((sorted ++ members).map Prod.fst).Pairwise (· < ·)) :
    canonicalMembers members sorted = sorted ++ members := by
  cases members with
  | nil => simp [canonicalMembers]
  | cons m rest =>
    obtain ⟨name, value⟩ := m
    have hbefore : ∀ other ∈ sorted.map Prod.fst, other < name := by
      rw [List.map_append, List.pairwise_append] at hsorted
      exact fun other hother => hsorted.2.2 other hother name (by simp)
    rw [List.append_cons] at hsorted ⊢
    rw [canonicalMembers, canonical_of_ordered value h.1, insertMember_last name value hbefore,
      canonicalMembers_of_ordered rest h.2 _ hsorted]

end

end DaemonDialogue.Json
