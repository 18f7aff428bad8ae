import GrammarArtifact.Proofs.Expansion.Reentry

/-! # The kinds and the fields of a summary

The kinds in a slot of a summary are the nodes at the ends of the chains that enter
no hidden rule twice, as far as the slot is their place; the fields are those that
such chains reach. Both are unions over the parts of a shape, and so are proved from
one account of how the chains out of a shape begin. -/

namespace GrammarArtifact
namespace Summary
variable {p : Place} {kind : NodeRef} {name : String}

theorem mem_types_sequence (l : List Summary) :
    kind ∈ ((sequence l).slot p).types ↔ ∃ s ∈ l, kind ∈ (s.slot p).types := by
  induction l with
  | nil => simp [sequence]
  | cons s rest ih => simp [sequence, ih]

theorem mem_types_choice (l : List Summary) :
    kind ∈ ((choice l).slot p).types ↔ ∃ s ∈ l, kind ∈ (s.slot p).types := by
  induction l with
  | nil => simp [choice]
  | cons s rest ih =>
    cases rest with
    | nil => simp [choice]
    | cons s' rest =>
      simp only [choice, slot_either, Slot.mem_types_either, ih, List.exists_mem_cons_iff]

theorem mem_types_ofNode (ref : NodeRef) :
    kind ∈ ((ofNode ref).slot p).types ↔ ref = kind ∧ p.holds ⟨kind, []⟩ = true := by
  have one : kind ∈ (Slot.one ref).types ↔ ref = kind := by
    rw [Slot.one, Std.ExtTreeSet.mem_ofList]
    simp [eq_comm]
  cases p with
  | field name => simp [Place.holds]
  | anywhere => simp [Place.holds, one]
  | nowhere => simp [slot, Place.holds]
  | children =>
    cases h : ref.named with
    | true =>
      simp only [slot_ofNode_children, h, if_true, one, Place.holds, List.isEmpty_nil,
        Bool.and_true]
      exact ⟨fun e => ⟨e, e ▸ h⟩, And.left⟩
    | false =>
      simp only [slot_ofNode_children, h, Place.holds, List.isEmpty_nil, Bool.and_true]
      constructor
      · intro hm
        simp at hm
      · intro hn
        obtain ⟨he, hn⟩ := hn
        simp [← he, h] at hn

theorem mem_fields_sequence (l : List Summary) :
    name ∈ (sequence l).fields ↔ ∃ s ∈ l, name ∈ s.fields := by
  induction l with
  | nil => simp [sequence]
  | cons s rest ih => simp [sequence, append, mem_mergeSlots, ih]

theorem mem_fields_choice (l : List Summary) :
    name ∈ (choice l).fields ↔ ∃ s ∈ l, name ∈ s.fields := by
  induction l with
  | nil => simp [choice]
  | cons s rest ih =>
    cases rest with
    | nil => simp [choice]
    | cons s' rest => simp only [choice, either, mem_mergeSlots, ih, List.exists_mem_cons_iff]

theorem mem_fields_ofNode (ref : NodeRef) : name ∉ (ofNode ref).fields := by
  obtain ⟨kind, named⟩ := ref
  cases named <;> simp [ofNode, Summary.named, anonymous]

@[simp] theorem mem_fields_repeated {s : Summary} {atLeastOnce : Bool} :
    name ∈ (s.repeated atLeastOnce).fields ↔ name ∈ s.fields :=
  Std.ExtTreeMap.mem_map

theorem mem_fields_inField {s : Summary} {field : String} :
    name ∈ (s.inField field).fields ↔ field = name ∨ name ∈ s.fields := by
  simp [inField, Std.ExtTreeMap.mem_insert]

end Summary

namespace Grammar
variable {g : Grammar} {inside : List String} {s : Shape} {goal : List String → Shape → Prop}

/-- A chain that enters no hidden rule twice, and none of the given ones, ends at a goal. -/
def Leads (g : Grammar) (inside : List String) (s : Shape) (goal : List String → Shape → Prop) :
    Prop :=
  ∃ entered fields t, g.Chain s entered fields t ∧ Avoids inside entered ∧ goal fields t

theorem leads_hidden {name : String} {body : Rule} :
    g.Leads inside (.hidden name body) goal ↔ goal [] (.hidden name body) ∨
      name ∉ inside ∧ g.Leads (name :: inside) (g.shape body) goal := by
  constructor
  · intro ⟨entered, fields, t, hc, ha, ht⟩
    cases hc with
    | refl => exact .inl ht
    | part hm _ => cases hm
    | hidden hc =>
      obtain ⟨hname, ha⟩ := avoids_cons.mp ha
      exact .inr ⟨hname, _, fields, t, hc, ha, ht⟩
  · intro h
    rcases h with ht | ⟨hname, entered, fields, t, hc, ha, ht⟩
    · exact ⟨[], [], _, .refl, avoids_nil, ht⟩
    · exact ⟨name :: entered, fields, t, .hidden hc, avoids_cons.mpr ⟨hname, ha⟩, ht⟩

theorem leads_field {name : String} {c : Rule} :
    g.Leads inside (.field name c) goal ↔ goal [] (.field name c) ∨
      g.Leads inside (g.shape c) fun fields t => goal (name :: fields) t := by
  constructor
  · intro ⟨entered, fields, t, hc, ha, ht⟩
    cases hc with
    | refl => exact .inl ht
    | part hm _ => cases hm
    | field hc => exact .inr ⟨entered, _, t, hc, ha, ht⟩
  · intro h
    rcases h with ht | ⟨entered, fields, t, hc, ha, ht⟩
    · exact ⟨[], [], _, .refl, avoids_nil, ht⟩
    · exact ⟨entered, _, t, .field hc, ha, ht⟩

/-- All other shapes lead on through their parts. -/
theorem leads_parts (plain : s.isPlain = true) : g.Leads inside s goal ↔ goal [] s ∨
    ∃ m ∈ s.parts, g.Leads inside (g.shape m) goal := by
  constructor
  · intro ⟨entered, fields, t, hc, ha, ht⟩
    cases hc with
    | refl => exact .inl ht
    | part hm hc => exact .inr ⟨_, hm, entered, fields, t, hc, ha, ht⟩
    | hidden _ | field _ => cases plain
  · intro h
    rcases h with ht | ⟨m, hm, entered, fields, t, hc, ha, ht⟩
    · exact ⟨[], [], _, .refl, avoids_nil, ht⟩
    · exact ⟨entered, fields, t, .part hm hc, ha, ht⟩

/-- **The kinds in a slot are the nodes at the ends of the chains that enter no rule twice.** -/
theorem mem_types_summarize (g : Grammar) (inside : List String) (r : Rule) (p : Place)
    (kind : NodeRef) : kind ∈ ((g.summarize inside r).slot p).types ↔
      g.Leads inside (g.shape r) fun fields t =>
        t = .node kind ∧ p.holds ⟨kind, fields⟩ = true := by
  induction inside, r using g.expansion_induction generalizing p with
  | nothing inside r h =>
    rw [summarize_eq, h, leads_parts rfl]
    simp [Summary.ofShape, Shape.parts]
  | node inside r ref h =>
    rw [summarize_eq, h, leads_parts rfl]
    simp [Summary.ofShape, Shape.parts, Summary.mem_types_ofNode]
  | cut inside r name body h hm =>
    rw [summarize_eq, h, leads_hidden]
    simp [Summary.ofShape, unfolded, hm]
  | hidden inside r name body h hm ih =>
    rw [summarize_eq, h, leads_hidden]
    simp [Summary.ofShape, unfolded, hm, ih]
  | seq inside r members h ih =>
    rw [summarize_eq, h, leads_parts rfl, Summary.ofShape, Summary.mem_types_sequence]
    simp only [List.mem_map, exists_exists_and_eq_and, Shape.parts, reduceCtorEq, false_and,
      false_or]
    exact exists_congr fun m => and_congr_right fun hm => ih m hm p
  | choice inside r members h ih =>
    rw [summarize_eq, h, leads_parts rfl, Summary.ofShape, Summary.mem_types_choice]
    simp only [List.mem_map, exists_exists_and_eq_and, Shape.parts, reduceCtorEq, false_and,
      false_or]
    exact exists_congr fun m => and_congr_right fun hm => ih m hm p
  | repeated inside r atLeastOnce content h ih =>
    rw [summarize_eq, h, leads_parts rfl]
    simp [Summary.ofShape, Shape.parts, ih]
  | field inside r name content h ih =>
    rw [summarize_eq, h, leads_field]
    have place : ∀ fields, (p.inside name).holds ⟨kind, fields⟩ = p.holds ⟨kind, name :: fields⟩ :=
      fun fields => (p.holds_inField name ⟨kind, fields⟩).symm
    simp [Summary.ofShape, ih, place]
  | wrapper inside r content h ih =>
    rw [summarize_eq, h, leads_parts rfl]
    simp [Summary.ofShape, Shape.parts, ih]

/-- **The fields of a summary are those that chains reach which enter no rule twice.** -/
theorem mem_fields_summarize (g : Grammar) (inside : List String) (r : Rule) (name : String) :
    name ∈ (g.summarize inside r).fields ↔
      g.Leads inside (g.shape r) fun _ t => ∃ c, t = .field name c := by
  induction inside, r using g.expansion_induction with
  | nothing inside r h =>
    rw [summarize_eq, h, leads_parts rfl]
    simp [Summary.ofShape, Shape.parts]
  | node inside r ref h =>
    rw [summarize_eq, h, leads_parts rfl]
    simp [Summary.ofShape, Shape.parts, Summary.mem_fields_ofNode]
  | cut inside r other body h hm =>
    rw [summarize_eq, h, leads_hidden]
    simp [Summary.ofShape, unfolded, hm]
  | hidden inside r other body h hm ih =>
    rw [summarize_eq, h, leads_hidden]
    simp [Summary.ofShape, unfolded, hm, ih]
  | seq inside r members h ih =>
    rw [summarize_eq, h, leads_parts rfl, Summary.ofShape, Summary.mem_fields_sequence]
    simp only [List.mem_map, exists_exists_and_eq_and, Shape.parts, reduceCtorEq, exists_false,
      false_or]
    exact exists_congr fun m => and_congr_right fun hm => ih m hm
  | choice inside r members h ih =>
    rw [summarize_eq, h, leads_parts rfl, Summary.ofShape, Summary.mem_fields_choice]
    simp only [List.mem_map, exists_exists_and_eq_and, Shape.parts, reduceCtorEq, exists_false,
      false_or]
    exact exists_congr fun m => and_congr_right fun hm => ih m hm
  | repeated inside r atLeastOnce content h ih =>
    rw [summarize_eq, h, leads_parts rfl]
    simp [Summary.ofShape, Shape.parts, ih]
  | field inside r other content h ih =>
    rw [summarize_eq, h, leads_field]
    simp [Summary.ofShape, Summary.mem_fields_inField, ih]
  | wrapper inside r content h ih =>
    rw [summarize_eq, h, leads_parts rfl]
    simp [Summary.ofShape, Shape.parts, ih]

end Grammar
end GrammarArtifact
