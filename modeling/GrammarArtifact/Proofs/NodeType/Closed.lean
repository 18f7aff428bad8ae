import Mathlib
import GrammarArtifact.Proofs.Language.Loading
import GrammarArtifact.Proofs.NodeType.Reach
import GrammarArtifact.Proofs.NodeType.Table
import GrammarArtifact.Proofs.Rule.Literals

/-! # The table lists what it refers to

The kinds in the slots of an entry come out of a summary, which expands hidden rules;
the entries come from walks over the bodies, which look for literals and for aliases
and expand nothing. Both agree on a body that is exposed: the table lists the literals
and the aliases in it. What a summary enters from an exposed body is exposed again, so
every node at the end of a chain is listed. The bodies of rules are exposed, and so
are the bodies that aliases rename, provided the walk for literals comes to them. It
stops at tokens, and looks at nothing in an alias but its content. -/

namespace GrammarArtifact
namespace Grammar
variable {g : Grammar} {name : String} {r body : Rule}

/-- The table lists the literals and the aliases in a body. -/
structure Exposed (g : Grammar) (r : Rule) : Prop where
  literals : ∀ kind ∈ r.anonymousKinds, kind ∈ g.anonymousKinds
  aliases : ∀ a ∈ r.preorder, a.isNamedAlias = true →
    ∀ name, a.text? = some name → name ∈ g.namedTypes

theorem exposed_blank (g : Grammar) : g.Exposed .blank := by
  constructor
  case literals => intro kind h; cases h
  case aliases =>
    intro a h halias
    rw [List.mem_singleton.mp h] at halias
    cases halias

theorem Exposed.child (h : g.Exposed r) (ho : r.IsOpen) {c : Rule} (hc : c ∈ r.children) :
    g.Exposed c := by
  constructor
  case literals =>
    intro kind hk
    refine h.literals kind ?_
    rw [Rule.anonymousKinds_of_open ho]
    exact List.mem_flatMap.mpr ⟨c, hc, hk⟩
  case aliases =>
    intro a ha
    exact h.aliases a (Rule.mem_preorder_of_child hc ha)

theorem Exposed.contentOrBlank (h : g.Exposed r) (ho : r.IsOpen) : g.Exposed r.contentOrBlank := by
  unfold Rule.contentOrBlank
  cases hc : r.content with
  | none => exact exposed_blank g
  | some c => exact h.child ho (Rule.mem_children.mpr (.inl hc))

theorem Exposed.members (h : g.Exposed r) (ho : r.IsOpen) : ∀ m ∈ r.members, g.Exposed m :=
  fun _ hm => h.child ho (Rule.mem_children.mpr (.inr hm))

/-- A visible name that anything bears is listed. -/
theorem mem_namedTypes_of_defines (hv : g.isHidden name = false) (hd : g.defines name = true) :
    name ∈ g.namedTypes := by
  have own : (g.ownType? name).isSome = true := by
    simp only [defines, Bool.or_eq_true, List.contains_eq_mem, decide_eq_true_eq] at hd
    simp only [ownType?, hv, Bool.false_eq_true, if_false, Option.isSome_or, Bool.or_eq_true,
      Option.isSome_map]
    rcases hd with hd | hd
    · exact .inl (Std.ExtTreeMap.mem_iff_isSome_getElem?.mp hd)
    · exact .inr (by simp [hd])
  rw [Std.ExtTreeMap.mem_iff_isSome_getElem?, getElem?_namedTypes, Option.isSome_or, own]
  rfl

theorem mem_namedTypes_of_alias {content : Rule} (h : (name, content) ∈ g.namedAliases) :
    name ∈ g.namedTypes := by
  obtain ⟨first, hf⟩ := exists_firstAlias h
  rw [Std.ExtTreeMap.mem_iff_isSome_getElem?, getElem?_namedTypes, hf, Option.isSome_or,
    Option.map_some, Option.isSome_some, Bool.or_true]

/-- The body of a rule that is no token is exposed. -/
theorem exposed_of_rule (hr : g.rule? name = some body) (hl : body.isLexical = false)
    (carried : ∀ a ∈ body.preorder, a.isNamedAlias = true → a.content.isSome = true) :
    g.Exposed body := by
  constructor
  case literals =>
    intro kind hk
    have listed : body ∈ (g.ruleEntries.map Prod.snd).filter fun body => !body.isLexical :=
      List.mem_filter.mpr ⟨List.mem_map.mpr ⟨_, mem_ruleEntries.mpr hr, rfl⟩, by simp [hl]⟩
    refine Std.ExtTreeSet.mem_ofList.mpr ?_
    rw [List.contains_eq_mem, decide_eq_true_eq]
    exact List.mem_append_left _ (List.mem_flatMap.mpr ⟨body, List.mem_append_left _ listed, hk⟩)
  case aliases =>
    intro a ha halias other hn
    obtain ⟨content, hc⟩ := Option.isSome_iff_exists.mp (carried a ha halias)
    have entered := Rule.namedAlias?_eq_some.mpr ⟨halias, hn, hc⟩
    exact mem_namedTypes_of_alias (mem_namedAliases.mpr ⟨name, body, a, hr, ha, entered⟩)

/-! ## What a summary enters is exposed -/

/-- The nodes that a shape shows are listed, and what it leads to is exposed. -/
def ExposedShape (g : Grammar) : Shape → Prop
  | .nothing => True
  | .node ref => ref ∈ g.nodeTypes.map NodeType.ref
  | .hidden _ body => g.Exposed body
  | .seq members | .choice members => ∀ m ∈ members, g.Exposed m
  | .repeated _ c | .field _ c | .wrapper c => g.Exposed c

theorem exposedShape_ofKind? {named : Bool} {text : Option String}
    (h : ∀ kind, text = some kind → ⟨kind, named⟩ ∈ g.nodeTypes.map NodeType.ref) :
    g.ExposedShape (.ofKind? named text) := by
  cases text with
  | none => trivial
  | some kind => exact h kind rfl

theorem exposedShape_reference (g : Grammar) (name : String)
    (bodies : ∀ name body, g.rule? name = some body → body.isLexical = false → g.Exposed body) :
    g.ExposedShape (g.referenceShape name) := by
  unfold referenceShape
  cases hv : g.isHidden name with
  | true =>
    cases hb : g.hiddenBody? name with
    | none => trivial
    | some body =>
      obtain ⟨_, hr, hl⟩ := rule?_of_hiddenBody? hb
      exact bodies name body hr hl
  | false =>
    cases hd : g.defines name with
    | true => exact named_mem_refs.mpr (mem_namedTypes_of_defines hv hd)
    | false => trivial

theorem Exposed.shape (h : g.Exposed r)
    (bodies : ∀ name body, g.rule? name = some body → body.isLexical = false → g.Exposed body) :
    g.ExposedShape (g.shape r) := by
  have literal : ∀ kind ∈ r.anonymousKinds, ⟨kind, false⟩ ∈ g.nodeTypes.map NodeType.ref :=
    fun kind hk => anonymous_mem_refs.mpr (h.literals kind hk)
  have content := h.contentOrBlank
  have members := h.members
  obtain ⟨type, value, ref, c, ms, named, flags, context⟩ := r
  cases type with
  | blank | pattern => trivial
  | string =>
    refine exposedShape_ofKind? ?_
    intro kind hk
    exact literal kind (by simp [Rule.anonymousKinds, hk])
  | token | immediateToken =>
    refine exposedShape_ofKind? ?_
    intro kind hk
    exact literal kind (by simp [Rule.anonymousKinds, hk])
  | symbol =>
    cases ref with
    | none => trivial
    | some name => exact g.exposedShape_reference name bodies
  | aliased =>
    refine exposedShape_ofKind? ?_
    intro kind hk
    cases hn : Rule.isNamed _ with
    | true => exact named_mem_refs.mpr (h.aliases _ (Rule.self_mem_preorder _) hn kind hk)
    | false => exact literal kind (by simp [Rule.anonymousKinds, hn, hk])
  | seq | choice => exact members (by simp [Rule.IsOpen, RuleType.isToken])
  | field =>
    cases ref with
    | none => exact content (by simp [Rule.IsOpen, RuleType.isToken])
    | some field => exact content (by simp [Rule.IsOpen, RuleType.isToken])
  | _ => exact content (by simp [Rule.IsOpen, RuleType.isToken])

/-- **Every node that chains reach from an exposed body is listed.** -/
theorem Exposed.chain {entered fields : List String} {ref : NodeRef} (h : g.Exposed r)
    (bodies : ∀ name body, g.rule? name = some body → body.isLexical = false → g.Exposed body)
    (hc : g.Chain (g.shape r) entered fields (.node ref)) :
    ref ∈ g.nodeTypes.map NodeType.ref := by
  have start := h.shape bodies
  generalize g.shape r = s at hc start
  generalize ht : Shape.node ref = t at hc
  induction hc with
  | refl =>
    subst ht
    exact start
  | @part s m _ _ _ hm _ ih =>
    have inner : g.Exposed m := by
      cases s with
      | seq members | choice members => exact start m hm
      | repeated _ c | wrapper c => exact List.mem_singleton.mp hm ▸ start
      | nothing | node _ | hidden _ _ | field _ _ => cases hm
    exact ih (inner.shape bodies) ht
  | hidden _ ih | field _ ih => exact ih (Exposed.shape start bodies) ht

end Grammar

/-! ## Aliases where the walks meet them -/

namespace Rule
variable {r s a : Rule}

/-- Every named alias in a body has something to rename. -/
def AliasesCarryContent (r : Rule) : Prop :=
  ∀ a ∈ r.preorder, a.isNamedAlias = true → a.content.isSome = true

/-- No named alias stands inside a token. -/
def AliasesOutsideTokens (r : Rule) : Prop :=
  ∀ s ∈ r.preorder, s.isLexical = true → ∀ a ∈ s.preorder, a.isNamedAlias = false

/-- No named alias stands among the members of an alias, which renames its content only. -/
def AliasesOutsideMembers (r : Rule) : Prop :=
  ∀ s ∈ r.preorder, s.type = .aliased → ∀ m ∈ s.members, ∀ a ∈ m.preorder, a.isNamedAlias = false

theorem AliasesOutsideTokens.inner (h : r.AliasesOutsideTokens) (hs : s ∈ r.preorder) :
    s.AliasesOutsideTokens :=
  fun t ht => h t (mem_preorder_trans hs ht)

theorem AliasesOutsideMembers.inner (h : r.AliasesOutsideMembers) (hs : s ∈ r.preorder) :
    s.AliasesOutsideMembers :=
  fun t ht => h t (mem_preorder_trans hs ht)

/-- The walk for literals comes to every named alias and goes on into what it renames. -/
theorem renamedKinds_subset (outside : r.AliasesOutsideTokens) (apart : r.AliasesOutsideMembers)
    (ha : a ∈ r.preorder) (halias : a.isNamedAlias = true) :
    ∀ kind ∈ renamedKinds a.content, kind ∈ r.anonymousKinds := by
  induction r using children_induction with
  | step r ih =>
    intro kind hk
    have noToken : ∀ s ∈ r.preorder, a ∈ s.preorder → s.isLexical = false := by
      intro s hs has
      by_contra hl
      rw [outside s hs (by simpa using hl) a has] at halias
      cases halias
    rcases mem_preorder.mp ha with rfl | ⟨c, hc, hac⟩
    · have htype : a.type = .aliased := by
        simp only [isNamedAlias, Bool.and_eq_true, decide_eq_true_eq] at halias
        exact halias.1
      rw [anonymousKinds_of_alias htype]
      exact List.mem_append_right _ hk
    -- No rule down to the alias is lexical, so the walk passes all children of a rule or, in an
    -- alias, its content.
    · have hcr := mem_preorder_of_child hc (self_mem_preorder c)
      have inner : kind ∈ c.anonymousKinds :=
        ih c hc (outside.inner hcr) (apart.inner hcr) hac kind hk
      rcases r.open_or_alias_or_lexical with ho | htype | hl
      · rw [anonymousKinds_of_open ho]
        exact List.mem_flatMap.mpr ⟨c, hc, inner⟩
      · rcases mem_children.mp hc with hcontent | hm
        · rw [anonymousKinds_of_alias htype, hcontent]
          refine List.mem_append_right _ ?_
          simpa [renamedKinds, noToken c hcr hac] using inner
        · rw [apart r (self_mem_preorder r) htype c hm a hac] at halias
          cases halias
      · rw [noToken r (self_mem_preorder r) ha] at hl
        cases hl

end Rule

namespace Grammar
variable {g : Grammar} {name : String} {body content : Rule}

/-- What an alias renames is exposed, since the walk for literals comes to the alias. -/
theorem exposed_of_alias
    (carried : ∀ name body, g.rule? name = some body → body.AliasesCarryContent)
    (outside : ∀ name body, g.rule? name = some body → body.AliasesOutsideTokens)
    (apart : ∀ name body, g.rule? name = some body → body.AliasesOutsideMembers)
    (h : (name, content) ∈ g.namedAliases) (hl : content.isLexical = false) :
    g.Exposed content := by
  obtain ⟨rule, body, a, hr, ha, hn⟩ := mem_namedAliases.mp h
  obtain ⟨halias, _, hc⟩ := Rule.namedAlias?_eq_some.mp hn
  have hbody : body.isLexical = false := by
    by_contra hb
    rw [outside rule body hr body (Rule.self_mem_preorder body) (by simpa using hb) a ha] at halias
    cases halias
  have exposed := exposed_of_rule hr hbody (carried rule body hr)
  constructor
  case literals =>
    intro kind hk
    refine exposed.literals kind ?_
    refine Rule.renamedKinds_subset (outside rule body hr) (apart rule body hr) ha halias kind ?_
    simpa [hc, Rule.renamedKinds, hl] using hk
  case aliases =>
    intro b hb
    have inner : b ∈ a.preorder :=
      Rule.mem_preorder_of_child (Rule.mem_children.mpr (.inl hc)) hb
    exact exposed.aliases b (Rule.mem_preorder_trans ha inner)

/-- **Every kind that an entry refers to has exactly one entry.** -/
theorem references_listed
    (carried : ∀ name body, g.rule? name = some body → body.AliasesCarryContent)
    (outside : ∀ name body, g.rule? name = some body → body.AliasesOutsideTokens)
    (apart : ∀ name body, g.rule? name = some body → body.AliasesOutsideMembers) :
    ∀ t ∈ g.nodeTypes, ∀ p info, t.slot? p = some info → ∀ ref ∈ info.types,
      (g.nodeTypes.map NodeType.ref).count ref = 1 := by
  have bodies : ∀ name body, g.rule? name = some body → body.isLexical = false → g.Exposed body :=
    fun name body hr hl => exposed_of_rule hr hl (carried name body hr)
  intro t ht p info hi ref href
  refine List.count_eq_one_of_mem g.nodup_refs ?_
  rcases entry_cases ht with ⟨kind, named, rfl⟩ | ⟨kind, body, hbody, hl, rfl⟩
  · rw [NodeType.slot?_leaf] at hi
    cases hi
  · have exposed : g.Exposed body := by
      rcases hbody with ⟨name, hr⟩ | ⟨name, halias⟩
      · exact bodies name body hr hl
      · exact exposed_of_alias carried outside apart halias hl
    rw [Summary.eq_info_of_slot? hi, Slot.info, Std.ExtTreeSet.mem_toList, mem_slot_types] at href
    obtain ⟨entered, fields, hc, _, _⟩ := href
    exact exposed.chain bodies hc

def keyed : Rule := .field "key" (.literal "z")

/-- A grammar with an alias of a rule that is hidden. -/
def pairs : Grammar where
  name := "pairs"
  rules := .ofList [("_pair", keyed), ("source_file", .aliased "pair" (.symbol "_pair"))]

/-- An alias that has another alias among its members. -/
def strayBody : Rule :=
  { type := .aliased, value := some (.string "y"), content := some (.literal "x"),
    members := [.aliased "pair" keyed] }

def strays : Grammar where
  name := "strays"
  rules := .ofList [("source_file", strayBody)]

/-- The type of a pair lists its key. -/
theorem keyed_slot (g : Grammar) (name : String) : ∃ info,
    (g.nodeType name keyed).slot? (.field "key") = some info ∧ ⟨"z", false⟩ ∈ info.types := by
  have reaches : g.Chain (g.shape keyed) [] [] (.field "key" (.literal "z")) := .refl
  have leads : g.Chain (g.shape keyed) [] ["key"] (.node ⟨"z", false⟩) := .field .refl
  rw [nodeType_of_not_lexical rfl]
  refine ⟨_, Summary.field?_of_mem (mem_fields.mpr ⟨_, _, _, reaches⟩), ?_⟩
  rw [Slot.info, Std.ExtTreeSet.mem_toList, mem_slot_types]
  exact ⟨_, _, leads, List.nodup_nil, rfl⟩

theorem pairs_rules : pairs.ruleEntries =
    [("_pair", keyed), ("source_file", .aliased "pair" (.symbol "_pair"))] := by cbv

/-- The entry of a pair in a grammar in which an alias makes the pairs. -/
theorem entered_pair (content : Rule) (own : g.ownType? "pair" = none)
    (first : g.firstAlias? "pair" = some content)
    (renames : g.aliasType "pair" content = g.nodeType "pair" keyed) :
    ∃ t ∈ g.nodeTypes, ∃ info, t.slot? (.field "key") = some info ∧ ⟨"z", false⟩ ∈ info.types := by
  have entered : g.namedTypes["pair"]? = some (g.nodeType "pair" keyed) := by
    rw [getElem?_namedTypes, own, first, Option.none_or, Option.map_some, renames]
  exact ⟨g.nodeType "pair" keyed, mem_nodeTypes_of_entered entered, keyed_slot g _⟩

/-- The key of a pair has an entry. -/
theorem pairs_references_listed : ∃ t ∈ pairs.nodeTypes, ∃ info,
    t.slot? (.field "key") = some info ∧ ⟨"z", false⟩ ∈ info.types ∧
      (pairs.nodeTypes.map NodeType.ref).count ⟨"z", false⟩ = 1 := by
  have renames : pairs.aliasType "pair" (.symbol "_pair") = pairs.nodeType "pair" keyed := by
    have target : pairs.rule? "_pair" = some keyed := by cbv
    simp [aliasType, Rule.symbolName?, Rule.isSymbol, Rule.symbol, target]
  obtain ⟨t, ht, info, hi, href⟩ := entered_pair (g := pairs) _ (by cbv) (by cbv) renames
  refine ⟨t, ht, info, hi, href, references_listed ?_ ?_ ?_ t ht _ info hi _ href⟩
  · exact forall_rule_iff.mpr (by rw [pairs_rules]; unfold Rule.AliasesCarryContent; decide)
  · exact forall_rule_iff.mpr (by rw [pairs_rules]; unfold Rule.AliasesOutsideTokens; decide)
  · exact forall_rule_iff.mpr (by rw [pairs_rules]; unfold Rule.AliasesOutsideMembers; decide)

theorem strays_rules : strays.ruleEntries = [("source_file", strayBody)] := by cbv

theorem strays_anonymous : strays.anonymousKinds.toList = ["y"] := by cbv

/-- The key of a pair has no entry if the alias that makes the pair stands among the members of an
alias. -/
theorem strays_unlisted :
    (∀ name body, strays.rule? name = some body → body.AliasesCarryContent) ∧
    (∀ name body, strays.rule? name = some body → body.AliasesOutsideTokens) ∧
    ∃ l, Language.ofGrammar strays = .ok l ∧ ∃ t ∈ l.nodeTypes, ∃ info,
      t.slot? (.field "key") = some info ∧ ⟨"z", false⟩ ∈ info.types ∧
      (l.nodeTypes.map NodeType.ref).count ⟨"z", false⟩ = 0 := by
  refine ⟨?_, ?_, Language.tables strays "source_file", ?_, ?_⟩
  · exact forall_rule_iff.mpr (by rw [strays_rules]; unfold Rule.AliasesCarryContent; decide)
  · exact forall_rule_iff.mpr (by rw [strays_rules]; unfold Rule.AliasesOutsideTokens; decide)
  · exact Language.ofGrammarWith_eq_ok.mpr ⟨by cbv, "source_file", by cbv, rfl⟩
  · obtain ⟨t, ht, info, hi, href⟩ := entered_pair (g := strays) keyed
      (by cbv) (by cbv) rfl
    refine ⟨t, ht, info, hi, href, List.count_eq_zero.mpr ?_⟩
    show ⟨"z", false⟩ ∉ strays.nodeTypes.map NodeType.ref
    rw [anonymous_mem_refs, ← Std.ExtTreeSet.mem_toList, strays_anonymous]
    decide

end Grammar
end GrammarArtifact
