import Mathlib.Data.List.Nodup
import GrammarArtifact.Proofs.Grammar.Rules
import GrammarArtifact.Proofs.NodeType.Entry
import GrammarArtifact.Proofs.Rule.Literals

/-! # The table as a function of the names

Every kind has at most one entry in the table. The named kinds come from the visible
rules, the visible externals and the aliases, and in this order they are served: what
a name is of its own counts before what it is an alias of, and of several aliases the
first one counts. -/

namespace GrammarArtifact

theorem NodeType.slot?_leaf (kind : String) (named : Bool) (p : Place) :
    (leaf kind named).slot? p = none := by
  cases p <;> simp [slot?, leaf, field?]

namespace Grammar
variable {g : Grammar} {name : String} {t : NodeType} {ref : NodeRef}

/-- The type of a name that is a visible rule or a visible external. -/
def ownType? (g : Grammar) (name : String) : Option NodeType :=
  if g.isHidden name then none
  else ((g.rule? name).map (g.nodeType name)).or
    (if name ∈ g.externalNames then some (.leaf name true) else none)

/-- What the first alias of a name renames. -/
def firstAlias? (g : Grammar) (name : String) : Option Rule := g.namedAliases.lookup name

theorem rule_of_mem_ruleTypes (h : name ∈ g.ruleTypes) :
    ∃ body, g.rule? name = some body ∧ g.isHidden name = false := by
  have listed := Std.ExtTreeMap.mem_ofList.mp h
  simp only [List.map_map, List.contains_eq_mem, List.mem_map, List.mem_filter,
    decide_eq_true_eq] at listed
  obtain ⟨⟨other, body⟩, ⟨hb, hv⟩, hn⟩ := listed
  have hn : other = name := hn
  subst hn
  exact ⟨body, mem_ruleEntries.mp hb, by simpa using hv⟩

theorem getElem?_ruleTypes (g : Grammar) (name : String) :
    g.ruleTypes[name]? = if g.isHidden name then none else (g.rule? name).map (g.nodeType name) := by
  by_cases h : name ∈ g.ruleTypes
  · obtain ⟨body, hr, hv⟩ := rule_of_mem_ruleTypes h
    simp [ruleTypes_of_rule hr hv, hr, hv]
  · rw [Std.ExtTreeMap.getElem?_eq_none h]
    cases hv : g.isHidden name with
    | true => rfl
    | false =>
      cases hr : g.rule? name with
      | none => rfl
      | some body =>
        have entered := ruleTypes_of_rule hr hv
        rw [Std.ExtTreeMap.getElem?_eq_none h] at entered
        cases entered

/-- Entering items one after the other, where no item replaces an entry, looks a name up among the
items if there is no entry for it yet. -/
theorem getElem?_foldl {α : Type} {step : NameMap NodeType → α → NameMap NodeType}
    {new : α → Option NodeType}
    (enters : ∀ types a, (step types a)[name]? = types[name]?.or (new a))
    (items : List α) (types : NameMap NodeType) :
    (items.foldl step types)[name]? = types[name]?.or (items.findSome? new) := by
  induction items generalizing types with
  | nil => simp
  | cons a rest ih =>
    rw [List.foldl_cons, ih, enters, List.findSome?_cons, Option.or_assoc]
    cases new a <;> simp

theorem getElem?_insertIfNew (types : NameMap NodeType) (other : String) (t : NodeType) :
    (types.insertIfNew other t)[name]? =
      types[name]?.or (if other = name then some t else none) := by
  rw [Std.ExtTreeMap.getElem?_insertIfNew]
  by_cases he : other = name
  · subst he
    by_cases hm : other ∈ types
    · simp [hm]
    · simp [hm]
  · simp [he]

theorem getElem?_insert_of_absent (types : NameMap NodeType) (other : String) (t : NodeType) :
    (if types.contains other then types else types.insert other t)[name]? =
      types[name]?.or (if other = name then some t else none) := by
  rw [← getElem?_insertIfNew]
  by_cases hm : other ∈ types
  · simp [hm, Std.ExtTreeMap.getElem?_insertIfNew]
  · simp [hm, Std.ExtTreeMap.getElem?_insertIfNew, Std.ExtTreeMap.getElem?_insert]

theorem findSome?_visible (g : Grammar) (name : String) (names : List String) :
    ((names.filter fun other => !g.isHidden other).findSome? fun other =>
        if other = name then some (NodeType.leaf other true) else none) =
      if g.isHidden name then none else if name ∈ names then some (.leaf name true) else none := by
  induction names with
  | nil => simp
  | cons other rest ih => 
    by_cases he : other = name
    · subst he
      cases hv : g.isHidden other with
      | true => simpa [hv] using ih
      | false => simp [hv]
    · have hne : name ≠ other := Ne.symm he
      cases hv : g.isHidden other with
      | true => simpa [hv, hne] using ih
      | false => simpa [hv, he, hne] using ih

theorem findSome?_alias (g : Grammar) (name : String) (aliases : List (String × Rule)) :
    (aliases.findSome? fun a => if a.1 = name then some (g.aliasType a.1 a.2) else none) =
      (aliases.lookup name).map (g.aliasType name) := by
  induction aliases with
  | nil => rfl
  | cons a rest ih =>
    obtain ⟨other, content⟩ := a
    by_cases he : other = name
    · subst he
      simp
    · have hne : (name == other) = false := by simpa using Ne.symm he
      simp [List.lookup_cons, he, hne, ih]

/-- **What is entered under a name.** -/
theorem getElem?_namedTypes (g : Grammar) (name : String) : g.namedTypes[name]? =
    (g.ownType? name).or ((g.firstAlias? name).map (g.aliasType name)) := by
  unfold namedTypes
  dsimp only
  rw [getElem?_foldl fun types a => getElem?_insert_of_absent types a.1 _,
    getElem?_foldl fun types a => getElem?_insertIfNew types a (.leaf a true),
    getElem?_ruleTypes, findSome?_visible, findSome?_alias, ownType?, firstAlias?]
  cases g.isHidden name <;> rfl

/-- The named aliases are those in the bodies of rules that have a name and a content. -/
theorem mem_namedAliases {content : Rule} : (name, content) ∈ g.namedAliases ↔
    ∃ rule body a, g.rule? rule = some body ∧ a ∈ body.preorder ∧
      a.namedAlias? = some (name, content) := by
  simp only [namedAliases, List.mem_flatMap, List.mem_filterMap]
  constructor
  · intro ⟨⟨rule, body⟩, hr, a, ha, hn⟩
    exact ⟨rule, body, a, mem_ruleEntries.mp hr, ha, hn⟩
  · intro ⟨rule, body, a, hr, ha, hn⟩
    exact ⟨(rule, body), mem_ruleEntries.mpr hr, a, ha, hn⟩

/-- The anonymous kinds come from the bodies that are no tokens, the extras and the externals. -/
theorem mem_anonymousKinds_iff : name ∈ g.anonymousKinds ↔
    (∃ body, ((∃ rule, g.rule? rule = some body) ∧ body.isLexical = false ∨
      body ∈ g.extraRules) ∧ name ∈ body.anonymousKinds) ∨
    ∃ r ∈ g.externalRules, r.stringValue? = some name := by
  unfold anonymousKinds
  simp [← mem_ruleEntries, or_and_right, exists_or, or_assoc]

/-- What an entry speaks about: the body of a rule, or what an alias renames. -/
def IsBody (g : Grammar) (body : Rule) : Prop :=
  (∃ name, g.rule? name = some body) ∨ ∃ name, (name, body) ∈ g.namedAliases

/-- A rule stands in the body of one of the rules of a grammar. -/
def Holds (g : Grammar) (r : Rule) : Prop :=
  ∃ name body, g.rule? name = some body ∧ r ∈ body.preorder

theorem holds_of_rule {body : Rule} (hr : g.rule? name = some body) : g.Holds body :=
  ⟨name, body, hr, body.self_mem_preorder⟩

theorem Holds.child {r c : Rule} (h : g.Holds r) (hc : c ∈ r.children) : g.Holds c := by
  obtain ⟨name, body, hb, hr⟩ := h
  have below : c ∈ r.preorder := Rule.mem_preorder_of_child hc c.self_mem_preorder
  exact ⟨name, body, hb, Rule.mem_preorder_trans hr below⟩

/-- What an entry speaks about stands in the grammar, also if it is the content of an alias. -/
theorem IsBody.holds {body : Rule} (h : g.IsBody body) : g.Holds body := by
  rcases h with ⟨_, hr⟩ | ⟨_, ha⟩
  · exact holds_of_rule hr
  · obtain ⟨name, rule, a, hr, ha, hn⟩ := mem_namedAliases.mp ha
    obtain ⟨_, _, hc⟩ := Rule.namedAlias?_eq_some.mp hn
    exact Holds.child ⟨name, rule, hr, ha⟩ (Rule.mem_children.mpr (.inl hc))

/-- A type that a body gives is that of a leaf, or says what the summary of the body says. -/
theorem nodeType_cases (g : Grammar) (name : String) (body : Rule) :
    g.nodeType name body = .leaf name true ∨
      body.isLexical = false ∧ g.nodeType name body = (g.summarize [] body).nodeType name := by
  unfold nodeType
  cases body.isLexical <;> simp

theorem aliasType_cases {content : Rule} (h : (name, content) ∈ g.namedAliases) :
    g.aliasType name content = .leaf name true ∨
      ∃ body, g.IsBody body ∧ g.aliasType name content = g.nodeType name body := by
  unfold aliasType
  split
  · split
    · rename_i body hr
      exact .inr ⟨body, .inl ⟨_, hr⟩, rfl⟩
    · exact .inl rfl
  · exact .inr ⟨content, .inr ⟨_, h⟩, rfl⟩

theorem ownType?_cases (h : g.ownType? name = some t) :
    t = .leaf name true ∨ ∃ body, g.IsBody body ∧ t = g.nodeType name body := by
  unfold ownType? at h
  split at h
  · cases h
  · rcases Option.or_eq_some_iff.mp h with h | ⟨_, h⟩
    · obtain ⟨body, hr, ht⟩ := Option.map_eq_some_iff.mp h
      exact .inr ⟨body, .inl ⟨name, hr⟩, ht.symm⟩
    · split at h
      · exact .inl (Option.some.inj h).symm
      · cases h

theorem firstAlias?_eq_some {content : Rule} : g.firstAlias? name = some content ↔
    ∃ before after, g.namedAliases = before ++ (name, content) :: after ∧
      ∀ a ∈ before, a.1 ≠ name := by
  rw [firstAlias?, List.lookup_eq_some_iff]
  simp only [bne_iff_ne, ne_comm]

theorem exists_firstAlias {content : Rule} (h : (name, content) ∈ g.namedAliases) :
    ∃ first, g.firstAlias? name = some first :=
  Option.isSome_iff_exists.mp (List.lookup_isSome_iff.mpr ⟨_, h, by simp⟩)

theorem firstAlias?_mem {content : Rule} (h : g.firstAlias? name = some content) :
    (name, content) ∈ g.namedAliases := by
  obtain ⟨before, after, hs, _⟩ := firstAlias?_eq_some.mp h
  rw [hs]
  exact List.mem_append_right _ List.mem_cons_self

/-- **An entry is that of a leaf, or says what the summary of a body says.** -/
theorem entry_cases (ht : t ∈ g.nodeTypes) : (∃ kind named, t = .leaf kind named) ∨
    ∃ kind body, g.IsBody body ∧ body.isLexical = false ∧
      t = (g.summarize [] body).nodeType kind := by
  rcases List.mem_append.mp ht with hn | ha
  · obtain ⟨⟨name, u⟩, hm, rfl⟩ := List.mem_map.mp hn
    have entered := Std.ExtTreeMap.mem_toList_iff_getElem?_eq_some.mp hm
    rw [getElem?_namedTypes] at entered
    have given : u = .leaf name true ∨ ∃ body, g.IsBody body ∧ u = g.nodeType name body := by
      rcases Option.or_eq_some_iff.mp entered with ho | ⟨_, ha⟩
      · exact ownType?_cases ho
      · obtain ⟨content, hf, rfl⟩ := Option.map_eq_some_iff.mp ha
        exact aliasType_cases (firstAlias?_mem hf)
    rcases given with rfl | ⟨body, hb, rfl⟩
    · exact .inl ⟨name, true, rfl⟩
    · rcases g.nodeType_cases name body with hleaf | ⟨hl, hsummary⟩
      · exact .inl ⟨name, true, hleaf⟩
      · exact .inr ⟨name, body, hb, hl, hsummary⟩
  · obtain ⟨kind, _, rfl⟩ := List.mem_map.mp ha
    exact .inl ⟨kind, false, rfl⟩

/-! ## One entry for each kind -/

/-- The kinds of the table: the named ones in order, then the anonymous ones in order. -/
theorem refs_nodeTypes (g : Grammar) : g.nodeTypes.map NodeType.ref =
    g.namedTypes.keys.map (⟨·, true⟩) ++ g.anonymousKinds.toList.map (⟨·, false⟩) := by
  have named : (g.namedTypes.toList.map Prod.snd).map NodeType.ref =
      g.namedTypes.keys.map (⟨·, true⟩) := by
    rw [← Std.ExtTreeMap.map_fst_toList_eq_keys, List.map_map, List.map_map]
    apply List.map_congr_left
    intro entry hm
    exact namedTypes_labelled g _ _ (Std.ExtTreeMap.mem_toList_iff_getElem?_eq_some.mp hm)
  rw [nodeTypes, List.map_append, named, List.map_map]
  rfl

theorem named_mem_refs : ⟨name, true⟩ ∈ g.nodeTypes.map NodeType.ref ↔ name ∈ g.namedTypes := by
  simp [refs_nodeTypes]

theorem anonymous_mem_refs :
    ⟨name, false⟩ ∈ g.nodeTypes.map NodeType.ref ↔ name ∈ g.anonymousKinds := by
  simp [refs_nodeTypes]

theorem mem_nodeTypes_of_entered (h : g.namedTypes[name]? = some t) : t ∈ g.nodeTypes :=
  List.mem_append_left _ (List.mem_map.mpr
    ⟨(name, t), Std.ExtTreeMap.mem_toList_iff_getElem?_eq_some.mpr h, rfl⟩)

theorem nodup_anonymousKinds (g : Grammar) : g.anonymousKinds.toList.Nodup := by
  refine Std.ExtTreeSet.distinct_toList.imp ?_
  intro a b distinct he
  exact distinct (Std.LawfulEqCmp.compare_eq_iff_eq.mpr he)

/-- **No kind has two entries.** -/
theorem nodup_refs (g : Grammar) : (g.nodeTypes.map NodeType.ref).Nodup := by
  rw [refs_nodeTypes]
  refine List.Nodup.append ?_ ?_ ?_
  · refine List.Nodup.map ?_ Std.ExtTreeMap.nodup_keys
    intro a b h
    injection h
  · refine List.Nodup.map ?_ (nodup_anonymousKinds g)
    intro a b h
    injection h
  · intro ref hn ha
    obtain ⟨_, _, rfl⟩ := List.mem_map.mp hn
    obtain ⟨_, _, he⟩ := List.mem_map.mp ha
    cases he

/-- The entry of a named kind is what is entered under its name. -/
theorem entry?_eq (g : Grammar) (name : String) : g.entry? name = g.namedTypes[name]? := by
  cases hf : g.entry? name with
  | some t =>
    have href : t.ref = ⟨name, true⟩ := by simpa using List.find?_some hf
    rw [namedTypes_of_mem (List.mem_of_find?_eq_some hf) href]
  | none =>
    symm
    refine Std.ExtTreeMap.getElem?_eq_none ?_
    intro hm
    obtain ⟨t, ht, href⟩ := List.mem_map.mp (named_mem_refs.mpr hm)
    exact List.find?_eq_none.mp hf t ht (by simpa using href)

end Grammar
end GrammarArtifact
