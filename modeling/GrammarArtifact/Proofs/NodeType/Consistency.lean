import Mathlib
import GrammarArtifact.Proofs.NodeType.Alias
import GrammarArtifact.Proofs.NodeType.Leaf

/-! # Entries agree with themselves

An entry says of a slot what the slot of a summary says, so what the operations on
summaries keep holds of every entry: what a slot requires it can hold, children are there
only if there is a kind for them, and kinds are listed in order. The entries that are
not made from a summary are those of leaves. -/

namespace GrammarArtifact

/-- One kind comes before another one: by the bytes of their texts, or as the anonymous kind of one
text. -/
def NodeRef.Before (a b : NodeRef) : Prop :=
  utf8Bytes a.kind < utf8Bytes b.kind ∨ a.kind = b.kind ∧ a.named = false ∧ b.named = true

theorem NodeRef.before_of_compare {a b : NodeRef} (h : compare a b = .lt) : a.Before b := by
  have both : (compare a.kind b.kind).then (compare a.named b.named) = .lt := h
  rcases Ordering.then_eq_lt.mp both with less | ⟨same, less⟩
  · exact .inl (utf8Bytes_lt.mpr (compare_lt_iff_lt.mp less))
  · refine .inr ⟨Std.LawfulEqCmp.compare_eq_iff_eq.mp same, ?_⟩
    revert less
    cases a.named <;> cases b.named <;> decide

/-- The kinds of a slot are listed in order, each once. -/
theorem Slot.types_info_sorted (s : Slot) : s.info.types.Pairwise NodeRef.Before :=
  Std.ExtTreeSet.ordered_toList.imp NodeRef.before_of_compare

namespace NodeType

def HoldsNothing (t : NodeType) : Prop := t.fields = ∅ ∧ t.children = none

theorem holdsNothing_leaf (kind : String) (named : Bool) : (leaf kind named).HoldsNothing :=
  ⟨rfl, rfl⟩

/-- What a type says of its slots fits together. -/
structure Consistent (t : NodeType) : Prop where
  sorted : ∀ p info, t.slot? p = some info → info.types.Pairwise NodeRef.Before
  /-- A field without kinds holds nothing. -/
  field : ∀ name info, t.field? name = some info → info.types = [] →
    info.required = false ∧ info.multiple = false
  children : ∀ info, t.children = some info →
    info.types ≠ [] ∧ ∀ kind ∈ info.types, kind.named = true

theorem consistent_leaf (kind : String) (named : Bool) : (leaf kind named).Consistent where
  sorted p info h := by
    rw [slot?_leaf] at h
    cases h
  field name info h := by simp [leaf, field?] at h
  children info h := by simp [leaf] at h

end NodeType

/-- A slot without kinds can have no nodes. -/
theorem Slot.Consistent.of_types_eq_nil {s : Slot} (hs : s.Consistent) (h : s.info.types = []) :
    s.info.required = false ∧ s.info.multiple = false := by
  have impossible : ¬ s.quantity.possible = true := by
    rw [hs.possible]
    rintro ⟨kind, hk⟩
    have listed : kind ∈ s.info.types := Std.ExtTreeSet.mem_toList.mpr hk
    rw [h] at listed
    cases listed
  constructor
  · exact Bool.eq_false_iff.mpr fun hr => impossible (hs.required hr)
  · exact Bool.eq_false_iff.mpr fun hm => impossible (hs.multiple hm)

/-- The type made from a consistent summary is consistent. -/
theorem Summary.Consistent.nodeType {s : Summary} (hs : s.Consistent) (kind : String) :
    (s.nodeType kind).Consistent where
  sorted p info h := by
    rw [Summary.eq_info_of_slot? h]
    exact Slot.types_info_sorted _
  field name info h := by
    rw [Summary.eq_info_of_slot? (p := .field name) h]
    exact (hs.slot (.field name)).of_types_eq_nil
  children info h := by
    have possible : s.children.quantity.possible = true := by
      by_contra impossible
      simp [Summary.nodeType, impossible] at h
    obtain ⟨ref, hr⟩ := (hs.slot .children).possible.mp possible
    rw [Summary.eq_info_of_slot? (p := .children) h]
    constructor
    · exact List.ne_nil_of_mem (Std.ExtTreeSet.mem_toList.mpr hr)
    · intro other ho
      exact hs.named other (Std.ExtTreeSet.mem_toList.mp ho)

namespace Grammar
variable {g : Grammar} {name : String} {t : NodeType}

/-- A named kind that is a leaf: a visible rule that is a token, a visible external, or a name that
is only that of aliases and of which the first one renames no structure. -/
inductive IsLeaf (g : Grammar) (name : String) : Prop
  | token {body : Rule} : g.isHidden name = false → g.rule? name = some body →
    body.isLexical = true → IsLeaf g name
  | external : g.isHidden name = false → g.rule? name = none → name ∈ g.externalNames →
    IsLeaf g name
  | renamed {content : Rule} :
    (g.isHidden name = true ∨ g.rule? name = none ∧ name ∉ g.externalNames) →
    g.firstAlias? name = some content → g.renamed? content = none → IsLeaf g name

theorem IsLeaf.entered (h : g.IsLeaf name) : g.namedTypes[name]? = some (.leaf name true) := by
  rw [getElem?_namedTypes]
  cases h with
  | token visible hr lexical => simp [ownType?, visible, hr, nodeType, lexical]
  | external visible hr external => simp [ownType?, visible, hr, external]
  | renamed free first leaf =>
    rw [ownType?_eq_none.mpr free, first, Option.none_or, Option.map_some, aliasType_eq, leaf]
    rfl

/-- An anonymous kind and a leaf hold nothing. -/
theorem holdsNothing_of_mem (ht : t ∈ g.nodeTypes) (h : t.named = false ∨ g.IsLeaf t.kind) :
    t.HoldsNothing := by
  rcases entry_cases ht with ⟨kind, named, rfl⟩ | ⟨kind, body, _, _, rfl⟩
  · exact NodeType.holdsNothing_leaf kind named
  · rcases h with anonymous | leaf
    · cases anonymous
    · have entered := namedTypes_of_mem ht rfl
      have entered' := leaf.entered
      rw [← Option.some.inj (entered'.symm.trans entered)]
      exact NodeType.holdsNothing_leaf _ true

/-- **Every entry is consistent.** -/
theorem consistent_of_mem (ht : t ∈ g.nodeTypes) : t.Consistent := by
  rcases entry_cases ht with ⟨kind, named, rfl⟩ | ⟨kind, body, _, _, rfl⟩
  · exact NodeType.consistent_leaf kind named
  · exact (g.summarize_consistent [] body).nodeType kind

/-- **Slots agree with themselves.** In the summary of any rule, whichever rules are being expanded,
a slot can get a node just if it lists a kind, only such a slot is required or multiple, all nodes
hold the kinds of every slot, and the children are named. So the entries list kinds in order, a
field without kinds is neither required nor multiple, children that are there have kinds, all
named, and anonymous kinds and leaves hold nothing. -/
theorem slots_consistent (g : Grammar) :
    (∀ inside r, (g.summarize inside r).Consistent) ∧
    ∀ t ∈ g.nodeTypes, t.Consistent ∧ (t.named = false ∨ g.IsLeaf t.kind → t.HoldsNothing) :=
  ⟨g.summarize_consistent, fun _ ht => ⟨consistent_of_mem ht, holdsNothing_of_mem ht⟩⟩

/-- The entry of a list has a field without kinds, since the rule in it is cut off, and this field
is neither required nor multiple. The entry of an item, which is a token, holds nothing. -/
theorem nests_consistent :
    (∃ t ∈ nests.nodeTypes, t.ref = ⟨"list", true⟩ ∧ ∃ info, t.field? "inner" = some info ∧
      info.types = [] ∧ info.required = false ∧ info.multiple = false) ∧
    ∃ t ∈ nests.nodeTypes, t.ref = ⟨"item", true⟩ ∧ t.HoldsNothing := by
  obtain ⟨_, entries⟩ := slots_consistent nests
  constructor
  · have list := List.mem_of_find?_eq_some (entry?_of_not_lexical nests_rule nests_visible rfl)
    have inner : "inner" ∈ (nests.summarize [] (.symbol "_expr")).fields :=
      mem_fields.mpr ⟨_, _, _, nests_reaches_inner⟩
    have held : ((nests.summarize [] (.symbol "_expr")).nodeType "list").field? "inner" =
        some ((nests.summarize [] (.symbol "_expr")).slot (.field "inner")).info :=
      Summary.field?_of_mem inner
    have empty : ((nests.summarize [] (.symbol "_expr")).slot (.field "inner")).info.types = [] := by
      simp [Slot.info, nests_inner]
    exact ⟨_, list, rfl, _, held, empty, (entries _ list).1.field _ _ held empty⟩
  · have pattern : nests.rule? "item" = some (.pattern "[a-z]+") := by cbv
    have visible : nests.isHidden "item" = false := by cbv
    have item := List.mem_of_find?_eq_some (entry?_of_rule pattern visible)
    exact ⟨_, item, rfl, (entries _ item).2 (.inr (.token visible pattern rfl))⟩

end Grammar
end GrammarArtifact
