import Mathlib
import GrammarArtifact.Proofs.Language.Loading
import GrammarArtifact.Proofs.NodeType.Reach
import GrammarArtifact.Proofs.NodeType.Table

/-! # The entry of an alias

Several aliases can give one name to different structures, and a rule or an external
can bear the name too. The table has one entry for the name, and that entry describes
one structure: that of the visible rule, nothing for a visible external, and otherwise
what the first alias of the name renames. What another alias of the name renames is
described as far as it is the same. -/

namespace GrammarArtifact

/-- A type lists all that another one lists: its fields, and the kinds in each of its slots. -/
def NodeType.Covers (t u : NodeType) : Prop :=
  ∀ p info, u.slot? p = some info →
    ∃ info', t.slot? p = some info' ∧ ∀ kind ∈ info.types, kind ∈ info'.types

namespace NodeType

theorem Covers.refl (t : NodeType) : t.Covers t :=
  fun _ info h => ⟨info, h, fun _ hk => hk⟩

/-- A type covers what holds nothing. -/
theorem covers_leaf (t : NodeType) (kind : String) (named : Bool) : t.Covers (.leaf kind named) := by
  intro p info h
  rw [slot?_leaf] at h
  cases h

end NodeType

namespace Grammar
variable {g : Grammar} {name : String} {content : Rule}

/-- The structure that an alias renames: the body of the rule to which it refers, or its content;
none if that is a token or an external. -/
def renamed? (g : Grammar) (content : Rule) : Option Rule :=
  (content.symbolName?.elim (some content) g.rule?).filter fun body => !body.isLexical

def structureType (g : Grammar) (name : String) : Option Rule → NodeType
  | none => .leaf name true
  | some body => (g.summarize [] body).nodeType name

theorem nodeType_eq_structureType (g : Grammar) (name : String) (body : Rule) :
    g.nodeType name body =
      g.structureType name ((some body).filter fun body => !body.isLexical) := by
  unfold nodeType
  rw [Option.filter_some]
  cases body.isLexical <;> rfl

/-- The type of an alias is that of the structure that it renames. -/
theorem aliasType_eq (g : Grammar) (name : String) (content : Rule) :
    g.aliasType name content = g.structureType name (g.renamed? content) := by
  unfold aliasType renamed?
  cases content.symbolName? with
  | none => exact g.nodeType_eq_structureType name content
  | some target =>
    cases hr : g.rule? target with
    | none => simp [hr, structureType]
    | some body => simpa [hr] using g.nodeType_eq_structureType name body

/-- The own type of a name is that of the body of its rule, or that of a leaf for an external. -/
theorem ownType?_eq_some {t : NodeType} (h : g.ownType? name = some t) : ∃ s,
    t = g.structureType name s ∧
    (∀ body, g.rule? name = some body → s = (some body).filter fun body => !body.isLexical) ∧
    (g.rule? name = none → s = none) := by
  unfold ownType? at h
  split at h
  · cases h
  · rcases Option.or_eq_some_iff.mp h with h | ⟨hr, h⟩
    · obtain ⟨body, hr, rfl⟩ := Option.map_eq_some_iff.mp h
      refine ⟨_, g.nodeType_eq_structureType name body, ?_, ?_⟩
      · intro body' hr'
        rw [Option.some.inj (hr.symm.trans hr')]
      · intro habsent
        cases hr.symm.trans habsent
    · have habsent := Option.map_eq_none_iff.mp hr
      split at h
      · cases h
        refine ⟨none, rfl, ?_, fun _ => rfl⟩
        intro body hr'
        cases habsent.symm.trans hr'
      · cases h

theorem ownType?_eq_none : g.ownType? name = none ↔
    g.isHidden name ∨ g.rule? name = none ∧ name ∉ g.externalNames := by
  unfold ownType?
  cases g.isHidden name <;> simp

/-- **Which structure the entry of an alias describes.** A visible rule of the name counts first,
then a visible external, which has no structure, and otherwise the first alias of the name counts.
So the entry covers an alias that renames no structure or the one that counts. -/
theorem alias_entry (h : (name, content) ∈ g.namedAliases) : ∃ s,
    g.entry? name = some (g.structureType name s) ∧
    (g.isHidden name = false → ∀ body, g.rule? name = some body →
      s = (some body).filter fun body => !body.isLexical) ∧
    (g.isHidden name = false → g.rule? name = none → name ∈ g.externalNames → s = none) ∧
    (g.isHidden name ∨ g.rule? name = none ∧ name ∉ g.externalNames → ∃ before first after,
      g.namedAliases = before ++ (name, first) :: after ∧ (∀ a ∈ before, a.1 ≠ name) ∧
      s = g.renamed? first) ∧
    (g.renamed? content = none ∨ g.renamed? content = s →
      (g.structureType name s).Covers (g.aliasType name content)) := by
  have covers : ∀ s, g.renamed? content = none ∨ g.renamed? content = s →
      (g.structureType name s).Covers (g.aliasType name content) := by
    rintro s (hnone | rfl)
    · rw [aliasType_eq, hnone]
      exact (g.structureType name s).covers_leaf name true
    · rw [aliasType_eq]
      exact .refl _
  rw [entry?_eq, getElem?_namedTypes, ← ownType?_eq_none]
  cases own : g.ownType? name with
  | some t =>
    obtain ⟨s, rfl, ofRule, ofExternal⟩ := ownType?_eq_some own
    exact ⟨s, rfl, fun _ => ofRule, fun _ hr _ => ofExternal hr, nofun, covers s⟩
  | none =>
    -- Nothing else bears the name, so the alias itself shows that there is a first one.
    obtain ⟨first, hf⟩ := exists_firstAlias h
    obtain ⟨before, after, hs, distinct⟩ := firstAlias?_eq_some.mp hf
    rw [hf, Option.none_or, Option.map_some, aliasType_eq]
    refine ⟨g.renamed? first, rfl, ?_, ?_, fun _ => ⟨before, first, after, hs, distinct, rfl⟩,
      covers _⟩
    · intro visible body hr
      rcases ownType?_eq_none.mp own with hidden | ⟨habsent, _⟩
      · simp [visible] at hidden
      · cases habsent.symm.trans hr
    · intro visible _ external
      rcases ownType?_eq_none.mp own with hidden | ⟨_, foreign⟩
      · simp [visible] at hidden
      · exact absurd external foreign

/-- A grammar in which two aliases make pairs of hidden rules, each with a field of its own. -/
def twins : Grammar where
  name := "twins"
  rules := .ofList
    [("_left", Rule.field "left" (.literal "a")), ("_right", Rule.field "right" (.literal "b")),
      ("source_file",
        Rule.seq [.aliased "pair" (.symbol "_left"), .aliased "pair" (.symbol "_right")])]

theorem twins_aliases : twins.namedAliases =
    [("pair", .symbol "_left"), ("pair", .symbol "_right")] := by cbv

theorem twins_left : twins.renamed? (.symbol "_left") = some (.field "left" (.literal "a")) := by
  cbv

theorem twins_right : twins.renamed? (.symbol "_right") = some (.field "right" (.literal "b")) := by
  cbv

/-- The structure that is a field around a literal has this field only. -/
theorem mem_fields_of_literal {field text kind : String} : kind ∈
    (g.structureType name (some (.field field (.literal text)))).fields ↔ field = kind := by
  have outer : g.shape (.field field (.literal text)) = .field field (.literal text) := rfl
  have inner : g.shape (.literal text) = .node ⟨text, false⟩ := rfl
  have same : kind ∈ (g.structureType name (some (.field field (.literal text)))).fields ↔
      kind ∈ (g.summarize [] (.field field (.literal text))).fields := Std.ExtTreeMap.mem_map
  rw [same, summarize_eq, outer, Summary.ofShape, Summary.mem_fields_inField, summarize_eq, inner]
  simp [Summary.ofShape, Summary.mem_fields_ofNode]

/-- The entry of a pair lacks the field of the second alias, though the grammar is loaded. -/
theorem twins_entry : ∃ l, Language.ofGrammar twins = .ok l ∧ l.nodeTypes = twins.nodeTypes ∧
    ∃ t, twins.entry? "pair" = some t ∧ "left" ∈ t.fields ∧ "right" ∉ t.fields ∧
      "right" ∈ (twins.aliasType "pair" (.symbol "_right")).fields := by
  refine ⟨Language.tables twins "source_file", ?_, rfl, ?_⟩
  · exact Language.ofGrammarWith_eq_ok.mpr ⟨by cbv, "source_file", by cbv, rfl⟩
  · have second : ("pair", Rule.symbol "_right") ∈ twins.namedAliases := by simp [twins_aliases]
    obtain ⟨s, ht, _, _, counts, _⟩ := alias_entry second
    have external : twins.externalNames = [] := by cbv
    obtain ⟨before, first, after, hs, distinct, rfl⟩ :=
      counts (.inr ⟨by cbv, by simp [external]⟩)
    have hfirst : first = .symbol "_left" := by
      rw [twins_aliases] at hs
      cases before with
      | nil => exact (Prod.mk.inj (List.cons.inj hs).1).2.symm
      | cons a before =>
        have other := distinct a List.mem_cons_self
        exact absurd (congrArg Prod.fst (List.cons.inj hs).1).symm other
    rw [hfirst, twins_left] at ht
    refine ⟨_, ht, mem_fields_of_literal.mpr rfl, ?_, ?_⟩
    · rw [mem_fields_of_literal]; decide
    · rw [aliasType_eq, twins_right, mem_fields_of_literal]

end Grammar
end GrammarArtifact
