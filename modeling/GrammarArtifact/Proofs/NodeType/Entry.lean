import GrammarArtifact.NodeType.Table
import GrammarArtifact.Proofs.Expansion.Slot

/-! # The entry of a rule

The table has one entry for each visible rule, and that entry says what the summary
of the body says. Externals and aliases are entered after the rules and never take
the place of one. -/

namespace GrammarArtifact

/-- The places about which a type speaks. -/
def Place.IsSlot : Place → Prop
  | .field _ | .children => True
  | .anywhere | .nowhere => False

namespace NodeType

/-- What a type says about a place: about a field, or about the children. -/
def slot? (t : NodeType) : Place → Option SlotInfo
  | .field name => t.field? name
  | .children => t.children
  | .anywhere | .nowhere => none

end NodeType

namespace Summary
variable {s : Summary} {kind : String} {p : Place} {info : SlotInfo}

theorem field?_nodeType (name : String) :
    (s.nodeType kind).field? name = (s.fields[name]?).map Slot.info := by
  simp [NodeType.field?, nodeType, Std.ExtTreeMap.getElem?_map]

/-- A type says of a place what the slot of the summary says. -/
theorem eq_info_of_slot? (h : (s.nodeType kind).slot? p = some info) : info = (s.slot p).info := by
  cases p with
  | field name =>
    simp only [NodeType.slot?, field?_nodeType] at h
    obtain ⟨slot, hs, hi⟩ := Option.map_eq_some_iff.mp h
    rw [Summary.slot, Std.ExtTreeMap.getD_eq_getD_getElem?, hs]
    exact hi.symm
  | children =>
    simp only [NodeType.slot?, nodeType] at h
    split at h
    · exact (Option.some.inj h).symm
    · cases h
  | anywhere | nowhere => cases h

/-- A type has every field of the summary. -/
theorem field?_of_mem {name : String} (h : name ∈ s.fields) :
    (s.nodeType kind).field? name = some (s.slot (.field name)).info := by
  rw [field?_nodeType, slot, Std.ExtTreeMap.getD_eq_getD_getElem?,
    Std.ExtTreeMap.getElem?_eq_some_getElem h]
  rfl

/-- A type has children if there can be any. -/
theorem children_of_possible (h : (s.slot .children).quantity.possible = true) :
    (s.nodeType kind).children = some (s.slot .children).info :=
  if_pos h

/-- A type is silent about a place that can have no nodes. -/
theorem not_possible_of_slot? (hp : p.IsSlot)
    (h : (s.nodeType kind).slot? p = none) : (s.slot p).quantity.possible = false := by
  cases p with
  | field name =>
    simp only [NodeType.slot?, field?_nodeType, Option.map_eq_none_iff] at h
    rw [Summary.slot, Std.ExtTreeMap.getD_eq_getD_getElem?, h]
    rfl
  | children =>
    simp only [NodeType.slot?, nodeType] at h
    split at h
    · cases h
    · rename_i hn
      simpa [Summary.slot] using hn
  | anywhere | nowhere => cases hp

end Summary

namespace Grammar
variable {g : Grammar} {name : String} {body : Rule}

def entry? (g : Grammar) (name : String) : Option NodeType :=
  g.nodeTypes.find? fun t => t.ref = ⟨name, true⟩

theorem ruleTypes_of_rule (hr : g.rule? name = some body) (hv : g.isHidden name = false) :
    g.ruleTypes[name]? = some (g.nodeType name body) := by
  unfold ruleTypes
  apply Std.ExtTreeMap.getElem?_ofList_of_mem (k := name) (by simp)
  · rw [List.pairwise_map]
    exact Std.ExtTreeMap.distinct_keys_toList.filter _
  · have hm : (name, body) ∈ g.ruleEntries := Std.ExtTreeMap.mem_toList_iff_getElem?_eq_some.mpr hr
    exact List.mem_map.mpr ⟨(name, body), List.mem_filter.mpr ⟨hm, by simp [hv]⟩, rfl⟩

/-- Names that are entered later leave an entry as it is. -/
theorem foldl_keeps {α : Type} {step : NameMap NodeType → α → NameMap NodeType} {t : NodeType}
    (keeps : ∀ types a, types[name]? = some t → (step types a)[name]? = some t)
    (items : List α) (types : NameMap NodeType) (h : types[name]? = some t) :
    (items.foldl step types)[name]? = some t := by
  induction items generalizing types with
  | nil => exact h
  | cons a rest ih => exact ih _ (keeps types a h)

theorem namedTypes_of_rule (hr : g.rule? name = some body) (hv : g.isHidden name = false) :
    g.namedTypes[name]? = some (g.nodeType name body) := by
  unfold namedTypes
  apply foldl_keeps
  · intro types ⟨other, content⟩ h
    simp only
    split
    · exact h
    · rename_i hn
      have hne : other ≠ name := by
        intro he
        subst he
        exact hn (Std.ExtTreeMap.mem_iff_isSome_getElem?.mpr (by simp [h]))
      simpa [Std.ExtTreeMap.getElem?_insert, hne] using h
  · apply foldl_keeps
    · intro types other h
      rw [Std.ExtTreeMap.getElem?_insertIfNew]
      split
      · rename_i hc
        have he : other = name := by simpa using hc.1
        subst he
        exact absurd (Std.ExtTreeMap.mem_iff_isSome_getElem?.mpr (by simp [h])) hc.2
      · exact h
    · exact ruleTypes_of_rule hr hv

/-! ## One entry for each named kind -/

theorem nodeType_ref (g : Grammar) (name : String) (body : Rule) :
    (g.nodeType name body).ref = ⟨name, true⟩ := by
  unfold nodeType
  split <;> rfl

theorem aliasType_ref (g : Grammar) (name : String) (content : Rule) :
    (g.aliasType name content).ref = ⟨name, true⟩ := by
  unfold aliasType
  split
  · split
    · exact nodeType_ref g name _
    · rfl
  · exact nodeType_ref g name content

/-- Every entry is about the kind under whose name it is entered. -/
def Labelled (types : NameMap NodeType) : Prop :=
  ∀ (name : String) (t : NodeType), types[name]? = some t → t.ref = ⟨name, true⟩

theorem Labelled.insert {types : NameMap NodeType} {t : NodeType} (h : Labelled types)
    (ht : t.ref = ⟨name, true⟩) : Labelled (types.insert name t) := by
  intro other u hu
  rw [Std.ExtTreeMap.getElem?_insert] at hu
  split at hu
  · rename_i he
    have he : name = other := by simpa using he
    rw [← Option.some.inj hu, ht, he]
  · exact h other u hu

theorem Labelled.insertIfNew {types : NameMap NodeType} {t : NodeType} (h : Labelled types)
    (ht : t.ref = ⟨name, true⟩) : Labelled (types.insertIfNew name t) := by
  intro other u hu
  rw [Std.ExtTreeMap.getElem?_insertIfNew] at hu
  split at hu
  · rename_i hc
    have he : name = other := by simpa using hc.1
    rw [← Option.some.inj hu, ht, he]
  · exact h other u hu

theorem Labelled.foldl {α : Type} {step : NameMap NodeType → α → NameMap NodeType}
    (keeps : ∀ types a, Labelled types → Labelled (step types a)) (items : List α)
    (types : NameMap NodeType) (h : Labelled types) : Labelled (items.foldl step types) := by
  induction items generalizing types with
  | nil => exact h
  | cons a rest ih => exact ih _ (keeps types a h)

theorem ruleTypes_labelled (g : Grammar) : Labelled g.ruleTypes := by
  intro name t h
  unfold ruleTypes at h
  obtain ⟨hm, _⟩ := Std.ExtTreeMap.getElem?_eq_some_iff.mp h
  have listed := Std.ExtTreeMap.mem_ofList.mp hm
  simp only [List.map_map, List.contains_eq_mem, List.mem_map, List.mem_filter,
    decide_eq_true_eq] at listed
  obtain ⟨⟨other, body⟩, ⟨hb, hv⟩, hn⟩ := listed
  have hn : other = name := hn
  subst hn
  have hv : g.isHidden other = false := by simpa using hv
  have entered := ruleTypes_of_rule (Std.ExtTreeMap.mem_toList_iff_getElem?_eq_some.mp hb) hv
  unfold ruleTypes at entered
  rw [h] at entered
  rw [Option.some.inj entered]
  exact nodeType_ref g other body

theorem namedTypes_labelled (g : Grammar) : Labelled g.namedTypes := by
  unfold namedTypes
  apply Labelled.foldl
  · intro types ⟨name, content⟩ h
    simp only
    split
    · exact h
    · exact h.insert (aliasType_ref g name content)
  · apply Labelled.foldl
    · intro types name h
      exact h.insertIfNew rfl
    · exact ruleTypes_labelled g

/-- A named kind has no two entries. -/
theorem namedTypes_of_mem {t : NodeType} (ht : t ∈ g.nodeTypes) (hr : t.ref = ⟨name, true⟩) :
    g.namedTypes[name]? = some t := by
  unfold nodeTypes at ht
  rcases List.mem_append.mp ht with ht | ht
  · obtain ⟨⟨other, u⟩, hm, hu⟩ := List.mem_map.mp ht
    have hu : u = t := hu
    subst hu
    have entered := Std.ExtTreeMap.mem_toList_iff_getElem?_eq_some.mp hm
    have labelled := namedTypes_labelled g other u entered
    rw [hr] at labelled
    injection labelled with hn
    exact hn ▸ entered
  · obtain ⟨kind, _, hk⟩ := List.mem_map.mp ht
    rw [← hk] at hr
    cases hr

/-- **The table has one entry for a visible rule, which is the type of its body.** -/
theorem entry?_of_rule (hr : g.rule? name = some body) (hv : g.isHidden name = false) :
    g.entry? name = some (g.nodeType name body) := by
  have entered := namedTypes_of_rule hr hv
  have hm : g.nodeType name body ∈ g.nodeTypes :=
    List.mem_append_left _ (List.mem_map.mpr
      ⟨(name, _), Std.ExtTreeMap.mem_toList_iff_getElem?_eq_some.mpr entered, rfl⟩)
  cases hf : g.entry? name with
  | none =>
    have := List.find?_eq_none.mp hf _ hm
    simp [nodeType_ref] at this
  | some t =>
    have href : t.ref = ⟨name, true⟩ := by simpa using List.find?_some hf
    have := namedTypes_of_mem (List.mem_of_find?_eq_some hf) href
    rw [← this, entered]

end Grammar
end GrammarArtifact
