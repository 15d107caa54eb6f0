import Mathlib.Tactic

/-!
# Lists of named things

What is found under a name once something else is put there, or everything of that name is
removed.
-/

namespace DaemonDialogue

variable {α β : Type} [BEq α] [LawfulBEq α] [DecidableEq α]

theorem lookup_cons_eq (first : α) (old : β) (rest : List (α × β)) (name : α) :
    ((first, old) :: rest).lookup name = if name = first then some old else rest.lookup name := by
  rw [List.lookup_cons]
  by_cases h : name = first
  · rw [if_pos h, beq_iff_eq.2 h]
  · rw [if_neg h, beq_eq_false_iff_ne.2 h]

theorem isSome_lookup (entries : List (α × β)) (name : α) :
    (entries.lookup name).isSome = entries.any fun e => e.1 == name := by
  induction entries with
  | nil => rfl
  | cons e rest ih =>
    obtain ⟨first, old⟩ := e
    rw [lookup_cons_eq, List.any_cons, ← ih]
    split_ifs with h
    · rw [h, beq_self_eq_true, Bool.true_or, Option.isSome_some]
    · rw [beq_eq_false_iff_ne.2 (Ne.symm h), Bool.false_or]

theorem lookup_renewed (entries : List (α × β)) (name : α) (new : β) (other : α) :
    (entries.map fun e => if e.1 == name then (name, new) else e).lookup other =
      if other = name then (entries.lookup name).map fun _ => new else entries.lookup other := by
  induction entries with
  | nil => simp
  | cons e rest ih =>
    obtain ⟨first, old⟩ := e
    rw [List.map_cons]
    by_cases hfirst : first = name
    · rw [if_pos (beq_iff_eq.2 hfirst), lookup_cons_eq, lookup_cons_eq, lookup_cons_eq, ih,
        if_pos hfirst.symm, hfirst]
      split_ifs <;> rfl
    · have hname : ¬name = first := Ne.symm hfirst
      rw [if_neg (by simpa using hfirst), lookup_cons_eq, lookup_cons_eq, lookup_cons_eq, ih,
        if_neg hname]
      by_cases hother : other = name
      · rw [if_pos hother, if_pos hother, if_neg (hother ▸ hname)]
      · rw [if_neg hother, if_neg hother]

theorem lookup_removed (entries : List (α × β)) (name other : α) :
    (entries.filter fun e => e.1 != name).lookup other =
      if other = name then none else entries.lookup other := by
  induction entries with
  | nil => simp
  | cons e rest ih =>
    obtain ⟨first, old⟩ := e
    rw [List.filter_cons, lookup_cons_eq]
    by_cases hfirst : first = name
    · rw [if_neg (by simpa using hfirst), ih, hfirst]
      split_ifs <;> rfl
    · rw [if_pos (by simpa using hfirst), lookup_cons_eq, ih]
      by_cases hother : other = first
      · rw [if_pos hother, if_pos hother, if_neg (hother ▸ hfirst)]
      · rw [if_neg hother, if_neg hother]

end DaemonDialogue
