import Mathlib
import GrammarArtifact.Proofs.Grammar.Rules
import GrammarArtifact.Proofs.NodeType.Reach

/-! # What an entry depends on

A summary can look any name up in its grammar, but it looks up only the names of the
references that it meets: in the body, and in the bodies of the hidden rules that it
expands on the way. Two grammars that agree on these names give a body the same
summary, and a rule with this body the same entry, whatever else they hold. -/

namespace GrammarArtifact

/-- The rules directly inside a rule that are expanded with it. A token and an alias are one node
as a whole, so nothing inside them is. -/
def Rule.inner (r : Rule) : List Rule :=
  match r.type with
  | .seq | .choice => r.members
  | .repeated | .repeated1 | .field | .prec | .precLeft | .precRight | .precDynamic | .reserved =>
    r.content.toList
  | .blank | .string | .pattern | .symbol | .aliased | .token | .immediateToken => []

theorem Rule.mem_children_of_inner {r m : Rule} (h : m ∈ r.inner) : m ∈ r.children := by
  obtain ⟨type, value, name, content, members, named, flags, context⟩ := r
  cases type with
  | blank | string | pattern | symbol | aliased | token | immediateToken => cases h
  | seq | choice => exact List.mem_append_right _ h
  | _ => exact List.mem_append_left _ h

/-- A reference to the name is met while a body is expanded: in the body itself, or in the body of
a hidden rule to which a reference is met. -/
inductive Grammar.Meets (g : Grammar) : Rule → String → Prop
  | here {r : Rule} {name : String} : r.symbolName? = some name → Meets g r name
  | inner {r m : Rule} {name : String} : m ∈ r.inner → Meets g m name → Meets g r name
  | hidden {r body : Rule} {other name : String} : r.symbolName? = some other →
    g.hiddenBody? other = some body → Meets g body name → Meets g r name

/-- Two grammars mean the same by a reference to a name. What a visible name stands for does not
matter. -/
structure Grammar.AgreesOn (g g' : Grammar) (name : String) : Prop where
  defined : g.defines name = g'.defines name
  hidden : g.isHidden name = g'.isHidden name
  body : g.isHidden name = true → g.rule? name = g'.rule? name

namespace Grammar
variable {g g' : Grammar} {name : String} {r m body : Rule}

/-! ## References and shapes -/

theorem AgreesOn.hiddenBody?_eq (h : g.AgreesOn g' name) :
    g.hiddenBody? name = g'.hiddenBody? name := by
  unfold hiddenBody?
  rw [← h.hidden]
  split
  next hidden => rw [h.body hidden]
  next => rfl

theorem AgreesOn.referenceShape_eq (h : g.AgreesOn g' name) :
    g.referenceShape name = g'.referenceShape name := by
  unfold referenceShape
  rw [← h.hidden, ← h.hiddenBody?_eq, ← h.defined]

/-- A shape depends on the grammar only if the rule is a reference. -/
theorem shape_eq_of_agrees (agree : ∀ name, r.symbolName? = some name → g.AgreesOn g' name) :
    g.shape r = g'.shape r := by
  unfold shape
  cases ht : r.type with
  | symbol =>
    cases hn : r.name with
    | none => rfl
    | some name => exact (agree name (symbolName?_eq_some.mpr ⟨ht, hn⟩)).referenceShape_eq
  | _ => rfl

theorem not_meets_blank : ¬ g.Meets .blank name := by
  intro h
  cases h with
  | here h => cases h
  | inner h _ => cases h
  | hidden h _ _ => cases h

/-- What a shape holds stands directly inside the rule, save that the empty text stands for a
content that is not there. -/
theorem mem_inner_of_shape (h : m ∈ (g.shape r).inner) : m ∈ r.inner ∨ m = .blank := by
  have none : ∀ named text, (Shape.ofKind? named text).inner = [] := by
    intro named text
    cases text <;> rfl
  obtain ⟨type, value, ref, content, members, named, flags, context⟩ := r
  cases type with
  | symbol =>
    cases ref with
    | none => simp [shape, Shape.inner] at h
    | some name =>
      simp only [shape, Option.elim_some, referenceShape] at h
      grind [Shape.inner]
  | string | aliased | token | immediateToken => simp [shape, none] at h
  | blank | pattern => simp [shape, Shape.inner] at h
  | seq | choice => exact .inl h
  | field =>
    cases ref <;> cases content <;>
      simp_all [shape, Shape.inner, Rule.inner, Rule.contentOrBlank]
  | _ => cases content <;> simp_all [shape, Shape.inner, Rule.inner, Rule.contentOrBlank]

/-- What is met in the rules that a shape holds is met in the rule. -/
theorem Meets.of_inner (h : m ∈ (g.shape r).inner) (met : g.Meets m name) : g.Meets r name := by
  rcases mem_inner_of_shape h with hm | rfl
  · exact .inner hm met
  · exact absurd met not_meets_blank

/-! ## Two grammars side by side -/

/-- **Grammars that agree on what is met give a body the same summary.** -/
theorem summarize_of_agrees {inside : List String}
    (agree : ∀ name, g.Meets r name → g.AgreesOn g' name) :
    g.summarize inside r = g'.summarize inside r := by
  induction inside, r using g.inner_induction with
  | step inside r inner hidden =>
    have same : g.shape r = g'.shape r := shape_eq_of_agrees fun name h => agree name (.here h)
    rw [summarize_eq, summarize_eq g', ← same]
    refine Summary.ofShape_congr ?_ ?_
    · intro m hm
      exact inner m hm fun name met => agree name (met.of_inner hm)
    · intro name body hb
      obtain ⟨ht, hn, hbody⟩ := reference_of_shape hb
      have reference : r.symbolName? = some name := symbolName?_eq_some.mpr ⟨ht, hn⟩
      unfold unfolded
      split
      next => rfl
      next hm =>
        exact hidden name body hb hm fun other met => agree other (.hidden reference hbody met)

/-- **The entry of a rule depends on what its expansion meets, and on nothing else.** Two grammars
in which a visible rule has the same body have the same entry for it, if they agree on every name
to which a reference is met in one of them. -/
theorem entry_of_agrees (hr : g.rule? name = some body) (hr' : g'.rule? name = some body)
    (visible : g.isHidden name = false) (visible' : g'.isHidden name = false)
    (agree : ∀ met, g.Meets body met → g.AgreesOn g' met) :
    ∃ t, g.entry? name = some t ∧ g'.entry? name = some t := by
  have same : g.nodeType name body = g'.nodeType name body := by
    unfold nodeType
    rw [summarize_of_agrees agree]
  exact ⟨_, entry?_of_rule hr visible, same ▸ entry?_of_rule hr' visible'⟩

/-- The grammar of nested lists with other items, an extra, and an alias of the name of the list. -/
def crowded : Grammar where
  name := "crowded"
  rules := .ofList
    [("_expr", exprBody), ("item", Rule.seq [.literal "<", .symbol "word", .literal ">"]),
      ("list", Rule.symbol "_expr"), ("rows", Rule.aliased "list" (.symbol "word")),
      ("word", Rule.pattern "[a-z]+")]
  extras := some [.pattern "\\s"]

/-- Two names are met in a list: that of the hidden rule, and that of an item. -/
theorem nests_meets (met : nests.Meets r name) (h : r = .symbol "_expr" ∨ r = exprBody ∨
    r = .symbol "item" ∨ r = .field "inner" (.symbol "_expr")) :
    name = "_expr" ∨ name = "item" := by
  induction met with
  | here hn =>
    rcases h with rfl | rfl | rfl | rfl
    · exact .inl (Option.some.inj hn).symm
    · cases hn
    · exact .inr (Option.some.inj hn).symm
    · cases hn
  | @inner r m name hm _ ih =>
    refine ih ?_
    rcases h with rfl | rfl | rfl | rfl
    · cases hm
    · have hm : m ∈ [.symbol "item", .field "inner" (.symbol "_expr")] := hm
      simp_all
    · cases hm
    · exact .inl (List.mem_singleton.mp hm)
  | @hidden r body other name hn hb _ ih =>
    refine ih (.inr (.inl ?_))
    rcases h with rfl | rfl | rfl | rfl
    · obtain rfl := Option.some.inj hn
      have expr : nests.hiddenBody? "_expr" = some exprBody := by cbv
      exact Option.some.inj (hb.symm.trans expr)
    · cases hn
    · obtain rfl := Option.some.inj hn
      have item : nests.hiddenBody? "item" = none := by cbv
      cases hb.symm.trans item
    · cases hn

/-- The entry of a list is the same in both grammars, though items are not. -/
theorem nests_crowded_entry : nests.rule? "item" ≠ crowded.rule? "item" ∧
    ∃ t, nests.entry? "list" = some t ∧ crowded.entry? "list" = some t := by
  have expr : nests.AgreesOn crowded "_expr" := by
    refine ⟨by cbv, by cbv, fun _ => ?_⟩
    cbv
  have item : nests.AgreesOn crowded "item" := by
    refine ⟨by cbv, by cbv, fun hidden => ?_⟩
    have visible : nests.isHidden "item" = false := by cbv
    cases visible.symm.trans hidden
  refine ⟨?_, entry_of_agrees nests_rule (by cbv) nests_visible (by cbv) ?_⟩
  · have nested : nests.rule? "item" = some (.pattern "[a-z]+") := by cbv
    have bracketed : crowded.rule? "item" =
        some (.seq [.literal "<", .symbol "word", .literal ">"]) := by cbv
    rw [nested, bracketed]
    decide
  · intro met h
    rcases nests_meets h (.inl rfl) with rfl | rfl
    · exact expr
    · exact item

end Grammar
end GrammarArtifact
