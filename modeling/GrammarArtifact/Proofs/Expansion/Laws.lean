import Mathlib.Order.Lattice
import GrammarArtifact.Proofs.Expansion.Slot

/-! # Laws of summaries

Summaries in a row are associative, and the empty summary is neutral. A choice between
summaries is a join: it does not matter in which order, how often and with which brackets
the branches are written, and a summary before or after a choice goes into every branch.
A summary is known by its fields and its slots, so that each law is one of slots, and a
field that only one side of an operation has counts as an empty slot on the other. -/

namespace GrammarArtifact

namespace Quantity
variable (q r s : Quantity)

theorem append_assoc : (q.append r).append s = q.append (r.append s) := by
  simp only [append, mk.injEq]
  grind

theorem either_assoc : (q.either r).either s = q.either (r.either s) := by
  simp [either, Bool.or_assoc, Bool.and_assoc]

theorem either_comm : q.either r = r.either q := by
  simp [either, Bool.or_comm, Bool.and_comm]

theorem append_either : q.append (r.either s) = (q.append r).either (q.append s) := by
  simp only [append, either, mk.injEq]
  grind

theorem either_append : (q.either r).append s = (q.append s).either (r.append s) := by
  simp only [append, either, mk.injEq]
  grind

theorem empty_append : append {} q = q := by
  simp [append]

end Quantity

namespace Slot

variable (s t u : Slot)

@[simp] theorem empty_append : Slot.append {} s = s :=
  ext_kinds (Quantity.empty_append _) (by simp)

theorem append_assoc : (s.append t).append u = s.append (t.append u) :=
  ext_kinds (Quantity.append_assoc _ _ _) (by simp [or_assoc])

theorem either_assoc : (s.either t).either u = s.either (t.either u) :=
  ext_kinds (Quantity.either_assoc _ _ _) (by simp [or_assoc])

theorem either_comm : s.either t = t.either s :=
  ext_kinds (Quantity.either_comm _ _) (by simp [or_comm])

theorem append_either : s.append (t.either u) = (s.append t).either (s.append u) := by
  refine ext_kinds (Quantity.append_either _ _ _) fun kind => ?_
  simp only [mem_types_append, mem_types_either]
  exact or_or_distrib_left

theorem either_append : (s.either t).append u = (s.append u).either (t.append u) := by
  refine ext_kinds (Quantity.either_append _ _ _) fun kind => ?_
  simp only [mem_types_append, mem_types_either]
  exact or_or_distrib_right

end Slot

namespace Summary
variable {s t u : Summary}

@[simp] theorem mem_fields_append {name : String} :
    name ∈ (s.append t).fields ↔ name ∈ s.fields ∨ name ∈ t.fields := mem_mergeSlots

@[simp] theorem mem_fields_either {name : String} :
    name ∈ (s.either t).fields ↔ name ∈ s.fields ∨ name ∈ t.fields := mem_mergeSlots

/-- **A summary is known by its fields and its slots.** -/
theorem ext_slot (fields : ∀ name, name ∈ s.fields ↔ name ∈ t.fields)
    (slots : ∀ p, s.slot p = t.slot p) : s = t := by
  have same : s.fields = t.fields := by
    apply Std.ExtTreeMap.ext_getElem?
    intro name
    by_cases hm : name ∈ s.fields
    · have hs := slots (.field name)
      rw [slot, slot, Std.ExtTreeMap.getD_eq_getD_getElem?, Std.ExtTreeMap.getD_eq_getD_getElem?,
        Std.ExtTreeMap.getElem?_eq_some_getElem hm,
        Std.ExtTreeMap.getElem?_eq_some_getElem ((fields name).mp hm)] at hs
      rw [Std.ExtTreeMap.getElem?_eq_some_getElem hm,
        Std.ExtTreeMap.getElem?_eq_some_getElem ((fields name).mp hm)]
      exact congrArg some hs
    · rw [Std.ExtTreeMap.getElem?_eq_none hm,
        Std.ExtTreeMap.getElem?_eq_none fun h => hm ((fields name).mpr h)]
  have children : s.children = t.children := slots .children
  have nodes : s.nodes = t.nodes := slots .anywhere
  cases s
  cases t
  simp_all

@[simp] theorem empty_append (s : Summary) : Summary.append {} s = s :=
  ext_slot (by simp) (by simp)

@[simp] theorem append_empty (s : Summary) : s.append {} = s :=
  ext_slot (by simp) (by simp)

theorem append_assoc (s t u : Summary) : (s.append t).append u = s.append (t.append u) :=
  ext_slot (by simp [or_assoc]) (by simp [Slot.append_assoc])

theorem either_assoc (s t u : Summary) : (s.either t).either u = s.either (t.either u) :=
  ext_slot (by simp [or_assoc]) (by simp [Slot.either_assoc])

theorem either_comm (s t : Summary) : s.either t = t.either s :=
  ext_slot (by simp [or_comm]) (by simp [Slot.either_comm])

theorem either_self (s : Summary) : s.either s = s :=
  ext_slot (by simp) (by simp)

theorem append_either (s t u : Summary) :
    s.append (t.either u) = (s.append t).either (s.append u) := by
  refine ext_slot (fun name => ?_) fun p => ?_
  · simp only [mem_fields_append, mem_fields_either]
    exact or_or_distrib_left
  · simp only [slot_append, slot_either]
    exact Slot.append_either _ _ _

theorem either_append (s t u : Summary) :
    (s.either t).append u = (s.append u).either (t.append u) := by
  refine ext_slot (fun name => ?_) fun p => ?_
  · simp only [mem_fields_append, mem_fields_either]
    exact or_or_distrib_right
  · simp only [slot_append, slot_either]
    exact Slot.either_append _ _ _

/-! ## Sequences and choices of many summaries -/

instance : Max Summary := ⟨either⟩

/-- One summary lies below another if it adds nothing as a further branch beside it. -/
instance : SemilatticeSup Summary := .mk' either_comm either_assoc either_self

theorem sequence_append (l l' : List Summary) :
    sequence (l ++ l') = (sequence l).append (sequence l') := by
  induction l with
  | nil => simp [sequence]
  | cons s l ih => rw [List.cons_append, sequence, sequence, ih, append_assoc]

/-- **A choice is the join of its branches.** -/
theorem choice_le_iff {l : List Summary} (hne : l ≠ []) : choice l ≤ t ↔ ∀ s ∈ l, s ≤ t := by
  induction l with
  | nil => exact absurd rfl hne
  | cons s l ih =>
    cases l with
    | nil => simp [choice]
    | cons s' l =>
      have join : choice (s :: s' :: l) = s ⊔ choice (s' :: l) := rfl
      rw [join, sup_le_iff, ih (List.cons_ne_nil _ _), List.forall_mem_cons (l := s' :: l)]

/-- Choices between the same branches are the same. -/
theorem choice_congr {l l' : List Summary} (same : ∀ s, s ∈ l ↔ s ∈ l') : choice l = choice l' := by
  by_cases hl : l = []
  · subst hl
    have empty : l' = [] := List.eq_nil_iff_forall_not_mem.mpr fun s hs =>
      List.not_mem_nil ((same s).mpr hs)
    rw [empty]
  · have hl' : l' ≠ [] := by
      obtain ⟨s, hs⟩ := List.exists_mem_of_ne_nil l hl
      exact List.ne_nil_of_mem ((same s).mp hs)
    refine eq_of_forall_ge_iff fun t => ?_
    simp only [choice_le_iff hl, choice_le_iff hl', same]

/-- A choice that is a branch of a choice gives way to its own branches. -/
theorem choice_flatten {inner before after : List Summary} (hne : inner ≠ []) :
    choice (before ++ choice inner :: after) = choice (before ++ inner ++ after) := by
  have filled : before ++ inner ++ after ≠ [] := by simp [hne]
  refine eq_of_forall_ge_iff fun t => ?_
  rw [choice_le_iff (by simp), choice_le_iff filled]
  simp only [List.mem_append, List.mem_cons, or_imp, forall_and, forall_eq, choice_le_iff hne]
  tauto

/-- What goes into both branches of any choice goes into all branches. -/
theorem map_choice {f : Summary → Summary} {l : List Summary} (hne : l ≠ [])
    (distributes : ∀ s t, f (s.either t) = (f s).either (f t)) :
    f (choice l) = choice (l.map f) := by
  induction l with
  | nil => exact absurd rfl hne
  | cons s l ih =>
    cases l with
    | nil => rfl
    | cons s' l =>
      have both : choice (s :: s' :: l) = s.either (choice (s' :: l)) := rfl
      rw [both, distributes, ih (List.cons_ne_nil _ _)]
      rfl

/-- A sequence with a choice in it is a choice between sequences. -/
theorem sequence_choice {branches before after : List Summary} (hne : branches ≠ []) :
    sequence (before ++ choice branches :: after) =
      choice (branches.map fun s => sequence (before ++ s :: after)) := by
  refine map_choice (f := fun s => sequence (before ++ s :: after)) hne ?_
  intro s t
  simp only [sequence_append, sequence, either_append, append_either]

end Summary
end GrammarArtifact
