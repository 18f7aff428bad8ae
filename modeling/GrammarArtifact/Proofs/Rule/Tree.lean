import Mathlib.Data.List.Basic
import GrammarArtifact.Rule.Basic

/-! # Rules as trees

What stands in a rule stands in its content or in one of its members. `preorder` and
`anonymousKinds` walk down both; here they are one equation each over the children
of a rule, and what lies in a rule is carried over to the rules around it. -/

namespace GrammarArtifact.Rule
variable {r s t : Rule}

/-- Induction along the content and the members of a rule. -/
theorem tree_induction {motive : Rule → Prop}
    (step : ∀ r, (∀ c, r.content = some c → motive c) → (∀ m ∈ r.members, motive m) → motive r)
    (r : Rule) : motive r := by
  refine Rule.rec (motive_1 := motive) (motive_2 := fun c => ∀ r, c = some r → motive r)
    (motive_3 := fun ms => ∀ m ∈ ms, motive m) ?_ ?_ ?_ ?_ ?_ r
  · intro type value name content members named flags context hc hm
    exact step _ hc hm
  · intro r h; cases h
  · intro r hr r' h; cases h; exact hr
  · intro m h; cases h
  · intro m ms hm hms m' h
    rcases List.mem_cons.mp h with rfl | h
    · exact hm
    · exact hms m' h

theorem mem_children : s ∈ r.children ↔ r.content = some s ∨ s ∈ r.members := by
  simp [children]

/-- Induction along the children of a rule. -/
theorem children_induction {motive : Rule → Prop}
    (step : ∀ r, (∀ c ∈ r.children, motive c) → motive r) (r : Rule) : motive r := by
  induction r using tree_induction with
  | step r hc hm =>
    refine step r ?_
    intro c h
    rcases mem_children.mp h with h | h
    · exact hc c h
    · exact hm c h

/-! ## The rules inside a rule -/

theorem preorderList_eq (rs : List Rule) : preorderList rs = rs.flatMap preorder := by
  induction rs with
  | nil => rfl
  | cons r rs ih => rw [preorderList, ih, List.flatMap_cons]

theorem preorder_eq (r : Rule) : r.preorder = r :: r.children.flatMap preorder := by
  obtain ⟨type, value, name, content, members, named, flags, context⟩ := r
  cases content with
  | none => simp [preorder, preorderOption, preorderList_eq, children]
  | some c => simp [preorder, preorderOption, preorderList_eq, children]

theorem mem_preorder : s ∈ r.preorder ↔ s = r ∨ ∃ c ∈ r.children, s ∈ c.preorder := by
  rw [preorder_eq, List.mem_cons, List.mem_flatMap]

theorem self_mem_preorder (r : Rule) : r ∈ r.preorder := mem_preorder.mpr (.inl rfl)

theorem mem_preorder_of_child {c : Rule} (hc : c ∈ r.children) (h : s ∈ c.preorder) :
    s ∈ r.preorder :=
  mem_preorder.mpr (.inr ⟨c, hc, h⟩)

theorem mem_preorder_trans (hs : s ∈ r.preorder) (ht : t ∈ s.preorder) : t ∈ r.preorder := by
  induction r using children_induction with
  | step r ih =>
    rcases mem_preorder.mp hs with rfl | ⟨c, hc, hs⟩
    · exact ht
    · exact mem_preorder_of_child hc (ih c hc hs)

end GrammarArtifact.Rule
