import GrammarArtifact.Proofs.Expansion.Slot

/-! # Summaries agree with themselves

A slot says twice whether it can get a node: by its quantity, and by listing kinds. And
a kind that is in a field or among the children is listed a second time, among all
nodes. Each operation on summaries keeps these accounts in agreement, the field that
takes the place of another one included, so they agree in the summary of every rule. -/

namespace GrammarArtifact

/-- A slot can get a node just if it lists a kind, and what it requires, or can get several of, it
can get. -/
structure Slot.Consistent (s : Slot) : Prop where
  possible : s.quantity.possible = true ↔ ∃ kind, kind ∈ s.types
  required : s.quantity.required = true → s.quantity.possible = true
  multiple : s.quantity.multiple = true → s.quantity.possible = true

namespace Slot.Consistent
variable {s t : Slot}

theorem empty : Slot.Consistent {} where
  possible := by simp
  required := nofun
  multiple := nofun

theorem one (ref : NodeRef) : (Slot.one ref).Consistent where
  possible := by simp [Slot.one, Quantity.one]
  required := fun _ => rfl
  multiple := nofun

theorem append (hs : s.Consistent) (ht : t.Consistent) : (s.append t).Consistent where
  possible := by
    simp only [mem_types_append, exists_or, ← hs.possible, ← ht.possible]
    simp [Slot.append, Quantity.append]
  required := by
    simp only [Slot.append, Quantity.append, Bool.or_eq_true]
    exact Or.imp hs.required ht.required
  multiple := by
    simp only [Slot.append, Quantity.append, Bool.or_eq_true, Bool.and_eq_true]
    rintro ((several | several) | ⟨first, _⟩)
    · exact .inl (hs.multiple several)
    · exact .inr (ht.multiple several)
    · exact .inl first

theorem either (hs : s.Consistent) (ht : t.Consistent) : (s.either t).Consistent where
  possible := by
    simp only [mem_types_either, exists_or, ← hs.possible, ← ht.possible]
    simp [Slot.either, Quantity.either]
  required := by
    simp only [Slot.either, Quantity.either, Bool.or_eq_true, Bool.and_eq_true]
    intro both
    exact .inl (hs.required both.1)
  multiple := by
    simp only [Slot.either, Quantity.either, Bool.or_eq_true]
    exact Or.imp hs.multiple ht.multiple

theorem repeated (hs : s.Consistent) (atLeastOnce : Bool) :
    (s.repeated atLeastOnce).Consistent where
  possible := hs.possible
  required := by
    simp only [Slot.repeated, Quantity.repeated, Bool.and_eq_true]
    intro both
    exact hs.required both.1
  multiple := id

end Slot.Consistent

/-- All slots of a summary are consistent, each lists only kinds that are among all nodes, and the
children are named. -/
structure Summary.Consistent (s : Summary) : Prop where
  slot : ∀ p, (s.slot p).Consistent
  listed : ∀ p, ∀ kind ∈ (s.slot p).types, kind ∈ s.nodes.types
  named : ∀ kind ∈ s.children.types, kind.named = true

namespace Summary.Consistent
variable {s t : Summary}

theorem empty : Summary.Consistent {} where
  slot p := by
    rw [slot_empty]
    exact .empty
  listed p kind h := by simp at h
  named kind h := by simp at h

theorem ofNode (ref : NodeRef) : (Summary.ofNode ref).Consistent where
  slot p := by
    rcases slot_ofNode ref p with h | h
    · rw [h]
      exact .empty
    · rw [h]
      exact .one ref
  listed p kind h := by
    have nodes : (Summary.ofNode ref).nodes = .one ref := slot_ofNode_anywhere ref
    rcases slot_ofNode ref p with hp | hp
    · simp [hp] at h
    · rwa [nodes, ← hp]
  named kind h := by
    have children : (Summary.ofNode ref).children = if ref.named then .one ref else {} :=
      slot_ofNode_children ref
    rw [children] at h
    cases hn : ref.named with
    | true =>
      obtain rfl : ref = kind := by simpa [hn, Slot.one] using h
      exact hn
    | false => simp [hn] at h

theorem append (hs : s.Consistent) (ht : t.Consistent) : (s.append t).Consistent where
  slot p := by
    rw [slot_append]
    exact (hs.slot p).append (ht.slot p)
  listed p kind h := by
    rw [slot_append, Slot.mem_types_append] at h
    exact Slot.mem_types_append.mpr (h.imp (hs.listed p kind) (ht.listed p kind))
  named kind h := (Slot.mem_types_append.mp h).elim (hs.named kind) (ht.named kind)

theorem either (hs : s.Consistent) (ht : t.Consistent) : (s.either t).Consistent where
  slot p := by
    rw [slot_either]
    exact (hs.slot p).either (ht.slot p)
  listed p kind h := by
    rw [slot_either, Slot.mem_types_either] at h
    exact Slot.mem_types_either.mpr (h.imp (hs.listed p kind) (ht.listed p kind))
  named kind h := (Slot.mem_types_either.mp h).elim (hs.named kind) (ht.named kind)

theorem repeated (hs : s.Consistent) (atLeastOnce : Bool) :
    (s.repeated atLeastOnce).Consistent where
  slot p := by
    rw [slot_repeated]
    exact (hs.slot p).repeated atLeastOnce
  listed p kind h := by
    rw [slot_repeated] at h
    exact hs.listed p kind h
  named := hs.named

/-- A field gets the slot of all nodes, so that nothing is asked of what it takes the place of. -/
theorem inField (hs : s.Consistent) (name : String) : (s.inField name).Consistent where
  slot p := by
    rw [slot_inField]
    exact hs.slot (p.inside name)
  listed p kind h := by
    rw [slot_inField] at h
    exact hs.listed (p.inside name) kind h
  named kind h := by simp [Summary.inField] at h

theorem sequence {l : List Summary} (h : ∀ s ∈ l, s.Consistent) :
    (Summary.sequence l).Consistent := by
  induction l with
  | nil => exact .empty
  | cons s rest ih =>
    obtain ⟨first, others⟩ := List.forall_mem_cons.mp h
    exact first.append (ih others)

theorem choice {l : List Summary} (h : ∀ s ∈ l, s.Consistent) : (Summary.choice l).Consistent :=
  choice_induction .empty (fun _ _ => .either) h

/-- The summary of a shape is consistent if those of its parts are. -/
theorem ofShape {part : Rule → Summary} {unfold : String → Rule → Summary} {s : Shape}
    (inner : ∀ m ∈ s.inner, (part m).Consistent)
    (hidden : ∀ name body, s = .hidden name body → (unfold name body).Consistent) :
    (Summary.ofShape part unfold s).Consistent := by
  cases s with
  | nothing => exact .empty
  | node ref => exact .ofNode ref
  | hidden name body => exact hidden name body rfl
  | seq members => exact .sequence (List.forall_mem_map.mpr inner)
  | choice members => exact .choice (List.forall_mem_map.mpr inner)
  | repeated atLeastOnce content => exact (inner content List.mem_cons_self).repeated atLeastOnce
  | field name content => exact (inner content List.mem_cons_self).inField name
  | wrapper content => exact inner content List.mem_cons_self

end Summary.Consistent

/-- **The summary of every rule is consistent**, whichever rules are being expanded. -/
theorem Grammar.summarize_consistent (g : Grammar) (inside : List String) (r : Rule) :
    (g.summarize inside r).Consistent := by
  induction inside, r using g.inner_induction with
  | step inside r inner hidden =>
    rw [summarize_eq]
    refine .ofShape inner ?_
    intro name body shape
    unfold unfolded
    split
    next => exact .empty
    next expanded => exact hidden name body shape expanded

end GrammarArtifact
