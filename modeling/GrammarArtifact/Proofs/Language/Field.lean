import Mathlib
import GrammarArtifact.Proofs.Grammar.Rules
import GrammarArtifact.Proofs.Language.Loading
import GrammarArtifact.Proofs.NodeType.Alias
import GrammarArtifact.Proofs.NodeType.Independence
import GrammarArtifact.Proofs.Text.ByteOrder

/-! # Numbers of fields

The fields of a language are numbered from one on in the order of their names, as far
as numbers go. A field and its number determine each other. The names are collected by
a walk over the bodies, and the fields of the node types by the summaries, which also
go into the bodies of hidden rules and of aliases. Such a body stands in the grammar
too, so no field of a node type is missing from the table. -/

namespace GrammarArtifact
namespace Grammar
variable {g : Grammar} {name : String} {r c body : Rule} {t : NodeType}

/-! ## The fields in rule bodies -/

/-- A name is that of a field in a rule body. -/
def HasField (g : Grammar) (name : String) : Prop :=
  ∃ r, g.Holds r ∧ r.type = .field ∧ r.name = some name

theorem mem_fieldNames : name ∈ g.fieldNames ↔ g.HasField name := by
  unfold fieldNames HasField Holds
  rw [Std.ExtTreeSet.mem_ofList, List.contains_iff_mem]
  simp only [List.mem_flatMap, List.mem_filterMap, Rule.fieldName?, Option.ite_none_right_eq_some]
  constructor
  · intro ⟨entry, he, r, hr, field⟩
    exact ⟨r, ⟨entry.1, entry.2, mem_ruleEntries.mp he, hr⟩, field⟩
  · intro ⟨r, ⟨rule, body, hb, hr⟩, field⟩
    exact ⟨(rule, body), mem_ruleEntries.mpr hb, r, hr, field⟩

theorem toList_fieldNames_increasing (g : Grammar) :
    g.fieldNames.toList.Pairwise fun a b => utf8Bytes a < utf8Bytes b :=
  Std.ExtTreeSet.ordered_toList.imp fun h => utf8Bytes_lt.mpr (compare_lt_iff_lt.mp h)

/-! ## The fields of node types -/

/-- Only a field has the shape of one. -/
theorem field_of_shape (h : g.shape r = .field name c) : r.type = .field ∧ r.name = some name := by
  have kind : ∀ named text, Shape.ofKind? named text ≠ .field name c := by
    intro named text
    cases text <;> simp [Shape.ofKind?]
  obtain ⟨type, value, ref, content, members, named, flags, context⟩ := r
  cases type with
  | field => cases ref <;> simp_all [shape]
  | symbol =>
    cases ref with
    | none => simp [shape] at h
    | some ref =>
      simp only [shape, Option.elim_some, referenceShape] at h
      grind
  | _ => simp [shape, kind] at h

/-- What the shape of a rule in the grammar holds stands in the grammar too, if it is there. -/
theorem Holds.inner (h : g.Holds r) (hc : c ∈ (g.shape r).inner) : g.Holds c ∨ c = .blank :=
  (mem_inner_of_shape hc).imp_left fun hm => h.child (Rule.mem_children_of_inner hm)

theorem not_chain_blank {entered fields : List String} :
    ¬ g.Chain (g.shape .blank) entered fields (.field name c) := by
  intro h
  cases h with
  | part hm _ => cases hm

/-- **A chain to a field ends in a rule body.** -/
theorem Chain.hasField {entered fields : List String}
    (hc : g.Chain (g.shape r) entered fields (.field name c)) (h : g.Holds r) :
    g.HasField name := by
  generalize hs : g.shape r = s at hc
  generalize he : Shape.field name c = last at hc
  induction hc generalizing r with
  | refl => exact ⟨r, h, field_of_shape (hs.trans he.symm)⟩
  | part hm hc ih =>
    subst he hs
    rcases h.inner (Shape.mem_inner_of_parts hm) with hm | rfl
    · exact ih hm rfl rfl
    · exact absurd hc not_chain_blank
  | @hidden rule body _ _ _ _ ih =>
    obtain ⟨_, hb, _⟩ := rule?_of_hiddenBody? (hiddenBody?_of_shape hs)
    exact ih (holds_of_rule hb) rfl he
  | @field field content _ _ _ hc ih =>
    subst he
    have hm : content ∈ (g.shape r).inner := by
      rw [hs]
      exact List.mem_singleton_self _
    rcases h.inner hm with hm | rfl
    · exact ih hm rfl rfl
    · exact absurd hc not_chain_blank

/-- **The fields of an entry are fields in rule bodies.** -/
theorem hasField_of_entry (ht : t ∈ g.nodeTypes) (h : name ∈ t.fields) : g.HasField name := by
  rcases entry_cases ht with ⟨kind, named, rfl⟩ | ⟨kind, body, hb, _, rfl⟩
  · exact absurd h Std.ExtTreeMap.not_mem_empty
  · have summarized : name ∈ (g.summarize [] body).fields := Std.ExtTreeMap.mem_map.mp h
    obtain ⟨_, _, _, hc⟩ := mem_fields.mp summarized
    exact hc.hasField hb.holds

end Grammar

namespace Language
variable {check : PatternCheck} {g : Grammar} {l : Language} {name : String} {id i : Nat}

/-! ## Names and numbers -/

theorem fields_increasing (loaded : ofGrammarWith check g = .ok l) :
    l.fields.Pairwise fun a b => utf8Bytes a < utf8Bytes b := by
  obtain ⟨_, _, _, rfl⟩ := ofGrammarWith_eq_ok.mp loaded
  exact g.toList_fieldNames_increasing

theorem fieldNameForId?_eq_some : l.fieldNameForId? id = some name ↔
    ∃ i, id = i + 1 ∧ i + 1 < idLimit ∧ l.fields[i]? = some name := by
  unfold fieldNameForId?
  cases id with
  | zero => simp
  | succ i => simp

theorem fieldIdForName?_eq_some : l.fieldIdForName? name = some id ↔
    ∃ i, id = i + 1 ∧ i + 1 < idLimit ∧ l.fields.findIdx? (· = name) = some i := by
  unfold fieldIdForName?
  rw [Option.filter_eq_some_iff]
  simp only [Option.map_eq_some_iff, decide_eq_true_eq]
  constructor
  · rintro ⟨⟨i, hi, rfl⟩, below⟩
    exact ⟨i, rfl, below, hi⟩
  · rintro ⟨i, rfl, below, hi⟩
    exact ⟨⟨i, hi, rfl⟩, below⟩

/-- Names are listed in the order of their places. -/
theorem lt_iff_of_fields (loaded : ofGrammarWith check g = .ok l) {j : Nat} {other : String}
    (hi : l.fields[i]? = some name) (hj : l.fields[j]? = some other) :
    i < j ↔ utf8Bytes name < utf8Bytes other := by
  have order := List.pairwise_iff_getElem.mp (fields_increasing loaded)
  obtain ⟨within, rfl⟩ := List.getElem?_eq_some_iff.mp hi
  obtain ⟨within', rfl⟩ := List.getElem?_eq_some_iff.mp hj
  refine ⟨order i j within within', fun h => ?_⟩
  rcases Nat.lt_trichotomy i j with before | rfl | after
  · exact before
  · exact absurd h (lt_irrefl _)
  · exact absurd (order j i within' within after) (lt_asymm h)

/-- No name is listed twice, so the first place of a name is its only one. -/
theorem findIdx?_fields (loaded : ofGrammarWith check g = .ok l) :
    l.fields.findIdx? (· = name) = some i ↔ l.fields[i]? = some name := by
  rw [List.findIdx?_eq_some_iff_getElem]
  constructor
  · rintro ⟨within, found, _⟩
    exact List.getElem?_eq_some_iff.mpr ⟨within, by simpa using found⟩
  · intro h
    obtain ⟨within, found⟩ := List.getElem?_eq_some_iff.mp h
    refine ⟨within, by simpa using found, ?_⟩
    intro j before same
    have hj : l.fields[j]? = some name :=
      List.getElem?_eq_some_iff.mpr ⟨by omega, by simpa using same⟩
    exact absurd ((lt_iff_of_fields loaded hj h).mp before) (lt_irrefl _)

/-- A name has a number if numbers go as far as its place. -/
theorem exists_fieldId (loaded : ofGrammarWith check g = .ok l) (h : name ∈ l.fields)
    (few : l.fieldCount ≤ 65535) : ∃ id, l.fieldIdForName? name = some id := by
  obtain ⟨i, within, found⟩ := List.mem_iff_getElem.mp h
  have below : i + 1 < idLimit := by
    unfold fieldCount at few
    unfold idLimit
    omega
  have hi : l.fields[i]? = some name := List.getElem?_eq_some_iff.mpr ⟨within, found⟩
  exact ⟨i + 1, fieldIdForName?_eq_some.mpr ⟨i, rfl, below, (findIdx?_fields loaded).mpr hi⟩⟩

/-- **The table of fields.** The number of a name is the one of which it is the name, however many
names there are. Zero is the number of none; the others are given in the order of the bytes, from
one on without gaps as far as numbers go. The names are those of the fields in the rule bodies, and
the fields of all node types are among them, so that they have numbers if no name is left over. -/
theorem field_table (loaded : ofGrammarWith check g = .ok l) :
    (∀ name id, l.fieldIdForName? name = some id ↔ l.fieldNameForId? id = some name) ∧
    l.fieldNameForId? 0 = none ∧
    (∀ i < 65535, l.fieldNameForId? (i + 1) = l.fields[i]?) ∧
    (∀ id id' name name', l.fieldNameForId? id = some name → l.fieldNameForId? id' = some name' →
      (id < id' ↔ utf8Bytes name < utf8Bytes name')) ∧
    (∀ name, name ∈ l.fields ↔ g.HasField name) ∧
    ∀ t ∈ l.nodeTypes, ∀ name ∈ t.fields, name ∈ l.fields ∧
      (l.fieldCount ≤ 65535 → ∃ id, l.fieldIdForName? name = some id) := by
  have listed : ∀ name, name ∈ l.fields ↔ g.HasField name := by
    obtain ⟨_, _, _, rfl⟩ := ofGrammarWith_eq_ok.mp loaded
    exact fun name => Std.ExtTreeSet.mem_toList.trans Grammar.mem_fieldNames
  refine ⟨?_, rfl, ?_, ?_, listed, ?_⟩
  · intro name id
    simp only [fieldIdForName?_eq_some, fieldNameForId?_eq_some, findIdx?_fields loaded]
  · intro i below
    have within : i + 1 < idLimit := by unfold idLimit; omega
    simp [fieldNameForId?, within]
  · intro id id' name name' h h'
    obtain ⟨i, rfl, _, hi⟩ := fieldNameForId?_eq_some.mp h
    obtain ⟨j, rfl, _, hj⟩ := fieldNameForId?_eq_some.mp h'
    rw [← lt_iff_of_fields loaded hi hj]
    omega
  · intro t ht name hn
    rw [nodeTypes_of_loaded loaded] at ht
    have named := (listed name).mpr (Grammar.hasField_of_entry ht hn)
    exact ⟨named, exists_fieldId loaded named⟩

/-- The entry that an alias makes has a field of the hidden rule that it renames. -/
theorem twins_pair : ∃ t ∈ Grammar.twins.nodeTypes, t.ref = ⟨"pair", true⟩ ∧ "left" ∈ t.fields := by
  have external : Grammar.twins.externalNames = [] := by cbv
  have own : Grammar.twins.ownType? "pair" = none :=
    Grammar.ownType?_eq_none.mpr (.inr ⟨by cbv, by simp [external]⟩)
  have first : Grammar.twins.firstAlias? "pair" = some (.symbol "_left") := by
    rw [Grammar.firstAlias?, Grammar.twins_aliases]
    rfl
  have entered : Grammar.twins.namedTypes["pair"]? =
      some (Grammar.twins.aliasType "pair" (.symbol "_left")) := by
    rw [Grammar.getElem?_namedTypes, own, first]
    rfl
  refine ⟨_, Grammar.mem_nodeTypes_of_entered entered, Grammar.aliasType_ref _ _ _, ?_⟩
  rw [Grammar.aliasType_eq, Grammar.twins_left]
  exact Grammar.mem_fields_of_literal.mpr rfl

/-- The fields of the pairs have the numbers one and two, and the entry of a pair shows one. -/
theorem twins_field_table : ∃ l, ofGrammar Grammar.twins = .ok l ∧
    l.fieldIdForName? "left" = some 1 ∧ l.fieldIdForName? "right" = some 2 ∧
    ∃ t ∈ l.nodeTypes, t.ref = ⟨"pair", true⟩ ∧ "left" ∈ t.fields ∧ "left" ∈ l.fields := by
  have loaded : ofGrammar Grammar.twins = .ok (tables Grammar.twins "source_file") :=
    ofGrammarWith_eq_ok.mpr ⟨by cbv, "source_file", by cbv, rfl⟩
  have names : (tables Grammar.twins "source_file").fields = ["left", "right"] := by
    show Grammar.twins.fieldNames.toList = _
    cbv
  obtain ⟨inverse, _, numbered, _, _, covered⟩ := field_table loaded
  obtain ⟨t, listed, ref, shown⟩ := twins_pair
  rw [← nodeTypes_of_loaded loaded] at listed
  refine ⟨_, loaded, (inverse _ _).mpr ?_, (inverse _ _).mpr ?_, t, listed, ref, shown,
    (covered t listed _ shown).1⟩
  · rw [numbered 0 (by decide), names]
    rfl
  · rw [numbered 1 (by decide), names]
    rfl

end Language
end GrammarArtifact
