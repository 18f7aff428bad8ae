import Mathlib
import GrammarArtifact.Proofs.NodeType.Alias
import GrammarArtifact.Proofs.Rule.Precedence

/-! # Node types with and without precedences

If every body of a grammar is replaced by one that is alike, the table of node types
stays what it is. So a precedence in a body can be put in or left out, save where a
token or an alias looks at the rule directly inside it. -/

namespace GrammarArtifact.Grammar
variable {g : Grammar} {f : String → Rule → Rule} {name : String} {body body' : Rule}

def mapRules (g : Grammar) (f : String → Rule → Rule) : Grammar :=
  { g with rules := g.rules.map f }

def setRule (g : Grammar) (name : String) (body : Rule) : Grammar :=
  { g with rules := g.rules.insert name body }

theorem rule?_mapRules (g : Grammar) (f : String → Rule → Rule) (name : String) :
    (g.mapRules f).rule? name = (g.rule? name).map (f name) := Std.ExtTreeMap.getElem?_map

theorem ruleEntries_mapRules (g : Grammar) (f : String → Rule → Rule) :
    (g.mapRules f).ruleEntries = g.ruleEntries.map fun entry => (entry.1, f entry.1 entry.2) :=
  Std.ExtTreeMap.toList_map

theorem defines_mapRules (g : Grammar) (f : String → Rule → Rule) (name : String) :
    (g.mapRules f).defines name = g.defines name := by
  simp [defines, mapRules, externalNames, externalRules]

theorem setRule_eq_mapRules (hr : g.rule? name = some body) :
    g.setRule name body' = g.mapRules fun other r => if other = name then body' else r := by
  unfold setRule mapRules
  congr 1
  refine Std.ExtTreeMap.ext_getElem? ?_
  intro other
  rw [Std.ExtTreeMap.getElem?_insert, Std.ExtTreeMap.getElem?_map]
  by_cases h : name = other
  · subst h
    have hr : g.rules[name]? = some body := hr
    simp [hr]
  · simp [h, Ne.symm h]

section SameType
variable (types : ∀ name body, g.rule? name = some body → body.SameType (f name body))
include types

/-- References add the same. -/
theorem referenceSummary_mapRules {expand expand' : Rule → Summary} (expanding : List String)
    (same : ∀ r r', Rule.SameType r r' → expand r = expand' r') (name : String) :
    (g.mapRules f).referenceSummary expanding expand' name =
      g.referenceSummary expanding expand name := by
  have hidden : (g.mapRules f).isHidden name = g.isHidden name := rfl
  have expansion : ((g.mapRules f).expansion? expanding name).elim {} expand' =
      (g.expansion? expanding name).elim {} expand := by
    unfold expansion?
    rw [hidden, rule?_mapRules]
    split
    · cases hr : g.rule? name with
      | none => rfl
      | some body =>
        have h := types name body hr
        rw [Option.map_some, Option.filter_some, Option.filter_some, ← h.lexical]
        split
        · exact (same _ _ h).symm
        · rfl
    · rfl
  unfold referenceSummary
  rw [defines_mapRules, hidden, expansion]

/-- Bodies with the same types have the same summary in both grammars. -/
theorem summaryWithin_mapRules (room : Nat) : ∀ (expanding : List String) (r r' : Rule),
    Rule.SameType r r' → g.summaryWithin room expanding r =
      (g.mapRules f).summaryWithin room expanding r' := by
  induction room with
  | zero =>
    intro expanding r r' h
    have references := referenceSummary_mapRules types [] fun _ _ _ => (rfl : ({} : Summary) = {})
    rw [summaryWithin, summaryWithin, h.summary, funext references]
  | succ room ih =>
    intro expanding r r' h
    have references : ∀ name, (g.mapRules f).referenceSummary expanding
        ((g.mapRules f).summaryWithin room (name :: expanding)) name =
          g.referenceSummary expanding (g.summaryWithin room (name :: expanding)) name :=
      fun name => referenceSummary_mapRules types expanding (ih (name :: expanding)) name
    rw [summaryWithin, summaryWithin, h.summary, funext references]

theorem summarize_mapRules (inside : List String) {r r' : Rule} (h : Rule.SameType r r') :
    (g.mapRules f).summarize inside r' = g.summarize inside r := by
  have size : (g.mapRules f).rules.size = g.rules.size := Std.ExtTreeMap.size_map
  unfold summarize
  rw [size, summaryWithin_mapRules types _ inside r r' h]

theorem nodeType_mapRules (kind : String) {r r' : Rule} (h : Rule.SameType r r') :
    (g.mapRules f).nodeType kind r' = g.nodeType kind r := by
  unfold nodeType
  rw [h.lexical, summarize_mapRules types [] h]

end SameType

section Alike
variable (alike : ∀ name body, g.rule? name = some body → body.Alike (f name body))
include alike

theorem sameType_of_alike (name : String) (body : Rule) (hr : g.rule? name = some body) :
    body.SameType (f name body) :=
  (alike name body hr).toSameType

theorem ownType?_mapRules (name : String) : (g.mapRules f).ownType? name = g.ownType? name := by
  have hidden : (g.mapRules f).isHidden name = g.isHidden name := rfl
  have externals : (g.mapRules f).externalNames = g.externalNames := rfl
  have type : ((g.mapRules f).rule? name).map ((g.mapRules f).nodeType name) =
      (g.rule? name).map (g.nodeType name) := by
    rw [rule?_mapRules, Option.map_map]
    refine Option.map_congr ?_
    intro body hr
    exact nodeType_mapRules (sameType_of_alike alike) name (alike name body hr).toSameType
  unfold ownType?
  rw [hidden, externals, type]

theorem aliasType_mapRules {a a' : String × Rule} (h : Rule.SameAlias a a') :
    (g.mapRules f).aliasType a'.1 a'.2 = g.aliasType a.1 a.2 := by
  unfold aliasType
  rw [← h.name, ← h.reference]
  cases a.2.symbolName? with
  | none => exact nodeType_mapRules (sameType_of_alike alike) a.1 h.toSameType
  | some target =>
    dsimp only
    rw [rule?_mapRules]
    cases hr : g.rule? target with
    | none => rfl
    | some body =>
      exact nodeType_mapRules (sameType_of_alike alike) a.1 (alike target body hr).toSameType

/-- The aliases are the same in number, order and kind. -/
theorem namedAliases_mapRules :
    List.Forall₂ Rule.SameAlias g.namedAliases (g.mapRules f).namedAliases := by
  have entries : List.Forall₂ (fun e e' => Rule.Alike e.2 (f e'.1 e'.2))
      g.ruleEntries g.ruleEntries :=
    List.forall₂_same.mpr fun e he => alike e.1 e.2 (mem_ruleEntries.mp he)
  unfold namedAliases
  rw [ruleEntries_mapRules, List.flatMap_map]
  exact List.rel_flatMap entries fun _ _ h => h.aliases

/-- The first aliases of a name have the same type. -/
theorem lookup_mapRules (name : String) {aliases aliases' : List (String × Rule)}
    (h : List.Forall₂ Rule.SameAlias aliases aliases') :
    (aliases'.lookup name).map ((g.mapRules f).aliasType name) =
      (aliases.lookup name).map (g.aliasType name) := by
  induction h with
  | nil => rfl
  | @cons a a' _ _ same _ ih =>
    obtain ⟨other, content⟩ := a
    obtain ⟨other', content'⟩ := a'
    obtain rfl : other = other' := same.name
    rw [List.lookup_cons, List.lookup_cons]
    by_cases he : name = other
    · subst he
      simpa using aliasType_mapRules alike same
    · have different : (name == other) = false := by simpa using he
      rw [different]
      exact ih

theorem namedTypes_mapRules : (g.mapRules f).namedTypes = g.namedTypes := by
  refine Std.ExtTreeMap.ext_getElem? ?_
  intro name
  rw [getElem?_namedTypes, getElem?_namedTypes, ownType?_mapRules alike, firstAlias?, firstAlias?,
    lookup_mapRules alike name (namedAliases_mapRules alike)]

theorem anonymousKinds_mapRules : (g.mapRules f).anonymousKinds = g.anonymousKinds := by
  have bodies : ∀ entries : List (String × Rule), (∀ e ∈ entries, e.2.Alike (f e.1 e.2)) →
      (((entries.map fun e => (e.1, f e.1 e.2)).map Prod.snd).filter
        fun body => !body.isLexical).flatMap Rule.anonymousKinds =
      ((entries.map Prod.snd).filter fun body => !body.isLexical).flatMap Rule.anonymousKinds := by
    intro entries h
    induction entries with
    | nil => rfl
    | cons e rest ih =>
      have same := h e List.mem_cons_self
      have later := ih fun e he => h e (List.mem_cons_of_mem _ he)
      rw [List.map_cons, List.map_cons, List.map_cons, List.filter_cons, List.filter_cons,
        ← same.lexical]
      cases e.2.isLexical with
      | true => exact later
      | false =>
        simp only [Bool.not_false, if_true, List.flatMap_cons]
        rw [← same.kinds, later]
  have extras : (g.mapRules f).extraRules = g.extraRules := rfl
  have externals : (g.mapRules f).externalRules = g.externalRules := rfl
  unfold anonymousKinds
  dsimp only
  rw [extras, externals, ruleEntries_mapRules, List.flatMap_append, List.flatMap_append,
    bodies g.ruleEntries fun e he => alike e.1 e.2 (mem_ruleEntries.mp he)]

/-- **The table cannot tell bodies apart that are alike.** -/
theorem nodeTypes_mapRules : (g.mapRules f).nodeTypes = g.nodeTypes := by
  unfold nodeTypes
  rw [namedTypes_mapRules alike, anonymousKinds_mapRules alike]

end Alike

/-- **Precedences leave no trace in the node types.** If a precedence is put around a rule in a body,
or one is left out, the node types and the anonymous kinds stay what they are, unless the rule is
the literal directly inside a token or the reference directly inside a named alias. -/
theorem nodeTypes_of_wraps (hr : g.rule? name = some body)
    (h : body.Wraps body' ∨ body'.Wraps body) :
    (g.setRule name body').nodeTypes = g.nodeTypes ∧
      (g.setRule name body').anonymousKinds = g.anonymousKinds := by
  have same : body.Alike body' := h.elim Rule.Wraps.alike fun h => h.alike.symm
  rw [setRule_eq_mapRules hr]
  have alike : ∀ other r, g.rule? other = some r →
      r.Alike (if other = name then body' else r) := by
    intro other r hother
    split
    next he =>
      subst he
      rwa [Option.some.inj (hother.symm.trans hr)]
    next => exact .refl r
  exact ⟨nodeTypes_mapRules alike, anonymousKinds_mapRules alike⟩

def stopBody (word pair : Rule) : Rule := .seq [word, .aliased "pair" pair]

/-- A grammar with a word that is a token, and with an alias of a rule that has a field. -/
def stops : Grammar where
  name := "stops"
  rules := .ofList [("item", Rule.field "key" (.literal "z")),
    ("source_file", stopBody (.token (.literal "stop")) (.symbol "item"))]

/-- The entry of a name that only aliases give, the first of which renames the structure. -/
theorem entry?_of_alias {content s : Rule} (own : g.ownType? name = none)
    (first : g.firstAlias? name = some content) (renames : g.renamed? content = some s) :
    g.entry? name = some (g.structureType name (some s)) := by
  rw [entry?_eq, getElem?_namedTypes, own, first, Option.none_or, Option.map_some, aliasType_eq,
    renames]

/-- A precedence around a reference to a visible rule has no fields. -/
theorem not_mem_fields_of_reference {field target : String} {level : Int}
    (visible : g.shape (.symbol target) = .node ⟨target, true⟩) :
    field ∉ (g.structureType name (some (.prec level (.symbol target)))).fields := by
  have same : field ∈ (g.structureType name (some (.prec level (.symbol target)))).fields ↔
      field ∈ (g.summarize [] (.prec level (.symbol target))).fields := Std.ExtTreeMap.mem_map
  have outer : g.shape (.prec level (.symbol target)) = .wrapper (.symbol target) := rfl
  rw [same, summarize_eq, outer, Summary.ofShape, summarize_eq, visible]
  simp [Summary.ofShape, Summary.mem_fields_ofNode]

/-- The grammar with a precedence between the alias and its reference. -/
def barePairs : Grammar :=
  stops.setRule "source_file" (stopBody (.token (.literal "stop")) (.prec 1 (.symbol "item")))

/-- A precedence between an alias and its reference takes the field from the pair. -/
theorem barePairs_nodeTypes : barePairs.nodeTypes ≠ stops.nodeTypes := by
  have structured : stops.entry? "pair" =
      some (stops.structureType "pair" (some (.field "key" (.literal "z")))) := by
    have first : stops.firstAlias? "pair" = some (.symbol "item") := by cbv
    exact entry?_of_alias (by cbv) first (by cbv)
  have bare : barePairs.entry? "pair" =
      some (barePairs.structureType "pair" (some (.prec 1 (.symbol "item")))) := by
    have first : barePairs.firstAlias? "pair" = some (.prec 1 (.symbol "item")) := by cbv
    exact entry?_of_alias (by cbv) first (by cbv)
  have absent : "key" ∉
      (barePairs.structureType "pair" (some (.prec 1 (.symbol "item")))).fields :=
    not_mem_fields_of_reference (by cbv)
  intro he
  have same : barePairs.entry? "pair" = stops.entry? "pair" := by
    unfold entry?
    rw [he]
  rw [same, structured] at bare
  rw [← Option.some.inj bare] at absent
  exact absent (mem_fields_of_literal.mpr rfl)

/-- A precedence around the token leaves no trace. One inside the token hides the literal, and one
inside the alias changes the entry of the pair. -/
theorem stops_precedences :
    (stops.setRule "source_file"
      (stopBody (.prec 1 (.token (.literal "stop"))) (.symbol "item"))).nodeTypes =
        stops.nodeTypes ∧
    (stops.setRule "source_file"
      (stopBody (.token (.prec 1 (.literal "stop"))) (.symbol "item"))).anonymousKinds ≠
        stops.anonymousKinds ∧
    barePairs.nodeTypes ≠ stops.nodeTypes := by
  refine ⟨?_, ?_, barePairs_nodeTypes⟩
  · have wraps : (stopBody (.token (.literal "stop")) (.symbol "item")).Wraps
        (stopBody (.prec 1 (.token (.literal "stop"))) (.symbol "item")) :=
      @Rule.Wraps.member _ _ _ [] _ rfl (.here ⟨rfl, rfl, rfl⟩)
    exact (nodeTypes_of_wraps (by cbv) (.inl wraps)).1
  · intro he
    have shown : stops.anonymousKinds.toList = ["stop", "z"] := by cbv
    have hidden : (stops.setRule "source_file" (stopBody (.token (.prec 1 (.literal "stop")))
        (.symbol "item"))).anonymousKinds.toList = ["z"] := by cbv
    rw [he, shown] at hidden
    exact absurd hidden (by decide)

end GrammarArtifact.Grammar
