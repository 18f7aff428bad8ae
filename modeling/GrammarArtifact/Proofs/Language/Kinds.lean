import Mathlib
import GrammarArtifact.Proofs.Language.Symbol
import GrammarArtifact.Proofs.Rule.Literals
import GrammarArtifact.Proofs.Text.ByteOrder

/-! # The kinds of a language

The table of a language lists the named kinds in the order of their bytes and then the
anonymous ones in that order, each once. Which kinds these are can be said without the
walks that collect them: by the rules that are visible, the aliases in the bodies, and
the rules that the bodies reveal. -/

namespace GrammarArtifact
namespace Grammar
variable {g : Grammar} {kind : String}

/-- The named kinds: the visible rules, the visible externals, and the names that aliases give to
what they rename. -/
inductive NamedKind (g : Grammar) : String → Prop
  | rule {kind : String} {body : Rule} : g.rule? kind = some body → g.isHidden kind = false →
    NamedKind g kind
  | external {kind : String} {r : Rule} : r ∈ g.externalRules → r.symbolName? = some kind →
    g.isHidden kind = false → NamedKind g kind
  | aliased {kind name : String} {body a content : Rule} : g.rule? name = some body →
    a ∈ body.preorder → a.type = .aliased → a.isNamed = true → a.text? = some kind →
    a.content = some content → NamedKind g kind

/-- The anonymous kinds: the literals among the externals, and what the extras and the bodies that
are no tokens reveal. -/
inductive AnonymousKind (g : Grammar) : String → Prop
  | external {kind : String} {r : Rule} : r ∈ g.externalRules → r.stringValue? = some kind →
    AnonymousKind g kind
  | rule {kind name : String} {body s : Rule} : g.rule? name = some body → body.isLexical = false →
    body.Reveals s → s.Yields kind → AnonymousKind g kind
  | extra {kind : String} {body s : Rule} : body ∈ g.extraRules → body.Reveals s →
    s.Yields kind → AnonymousKind g kind

/-- What is entered under a name of its own. -/
theorem isSome_ownType? : (g.ownType? kind).isSome = true ↔
    g.isHidden kind = false ∧ (kind ∈ g.rules ∨ kind ∈ g.externalNames) := by
  unfold ownType?
  cases g.isHidden kind with
  | true => simp
  | false =>
    rw [Std.ExtTreeMap.mem_iff_isSome_getElem?]
    by_cases hx : kind ∈ g.externalNames <;> simp [hx, rule?]

/-- **The names of the table are the named kinds.** -/
theorem mem_namedTypes : kind ∈ g.namedTypes ↔ g.NamedKind kind := by
  rw [Std.ExtTreeMap.mem_iff_isSome_getElem?, getElem?_namedTypes, Option.isSome_or,
    Bool.or_eq_true, isSome_ownType?, Option.isSome_map]
  constructor
  · rintro (⟨visible, hr | hx⟩ | ha)
    · obtain ⟨body, hr⟩ := Option.isSome_iff_exists.mp (Std.ExtTreeMap.mem_iff_isSome_getElem?.mp hr)
      exact .rule hr visible
    · obtain ⟨r, hm, hn⟩ := List.mem_filterMap.mp hx
      exact .external hm hn visible
    · obtain ⟨content, ha⟩ := Option.isSome_iff_exists.mp ha
      obtain ⟨name, body, a, hr, hm, hn⟩ := mem_namedAliases.mp (firstAlias?_mem ha)
      obtain ⟨halias, text, hc⟩ := Rule.namedAlias?_eq_some.mp hn
      simp only [Rule.isNamedAlias, Bool.and_eq_true, decide_eq_true_eq] at halias
      exact .aliased hr hm halias.1 halias.2 text hc
  · intro h
    cases h with
    | rule hr visible =>
      have present : kind ∈ g.rules :=
        Std.ExtTreeMap.mem_iff_isSome_getElem?.mpr (Option.isSome_iff_exists.mpr ⟨_, hr⟩)
      exact .inl ⟨visible, .inl present⟩
    | external hm hn visible => exact .inl ⟨visible, .inr (List.mem_filterMap.mpr ⟨_, hm, hn⟩)⟩
    | @aliased name body a content hr hm ht hn text hc =>
      have halias : a.isNamedAlias = true := by simp [Rule.isNamedAlias, ht, hn]
      have entered : (kind, content) ∈ g.namedAliases :=
        mem_namedAliases.mpr ⟨name, body, a, hr, hm, Rule.namedAlias?_eq_some.mpr ⟨halias, text, hc⟩⟩
      exact .inr (Option.isSome_iff_exists.mpr (exists_firstAlias entered))

/-- **The literals of the table are the anonymous kinds.** -/
theorem mem_anonymousKinds : kind ∈ g.anonymousKinds ↔ g.AnonymousKind kind := by
  rw [mem_anonymousKinds_iff]
  constructor
  · rintro (⟨body, hb, hk⟩ | ⟨r, hm, hk⟩)
    · obtain ⟨s, hs, yields⟩ := Rule.mem_anonymousKinds.mp hk
      rcases hb with ⟨⟨name, hr⟩, hl⟩ | hx
      · exact .rule hr hl hs yields
      · exact .extra hx hs yields
    · exact .external hm hk
  · intro h
    cases h with
    | external hm hk => exact .inr ⟨_, hm, hk⟩
    | rule hr hl hs yields =>
      exact .inl ⟨_, .inl ⟨⟨_, hr⟩, hl⟩, Rule.mem_anonymousKinds.mpr ⟨_, hs, yields⟩⟩
    | extra hx hs yields => exact .inl ⟨_, .inr hx, Rule.mem_anonymousKinds.mpr ⟨_, hs, yields⟩⟩

theorem keys_namedTypes_increasing (g : Grammar) :
    g.namedTypes.keys.Pairwise fun a b => utf8Bytes a < utf8Bytes b :=
  Std.ExtTreeMap.ordered_keys.imp fun h => utf8Bytes_lt.mpr (compare_lt_iff_lt.mp h)

theorem toList_anonymousKinds_increasing (g : Grammar) :
    g.anonymousKinds.toList.Pairwise fun a b => utf8Bytes a < utf8Bytes b :=
  Std.ExtTreeSet.ordered_toList.imp fun h => utf8Bytes_lt.mpr (compare_lt_iff_lt.mp h)

end Grammar

namespace Language
variable {check : PatternCheck} {g : Grammar} {l : Language}

/-- The numbers above zero are those of the entries, in their order. -/
theorem symbol?_succ (l : Language) {i : Nat} (below : i < 65535) :
    l.symbol? (i + 1) = l.nodeTypes[i]?.map NodeType.ref := by
  have within : i + 1 < idLimit := by unfold idLimit; omega
  rw [symbol?, if_pos within, symbols, List.getElem?_cons_succ, List.getElem?_map]

/-- **The kinds of a language, in the order of their numbers.** The table lists the named kinds and
then the anonymous kinds, both strictly in the order of their bytes, and the number that follows
the place of an entry, as far as numbers go, is that of its symbol. -/
theorem kinds_listed (loaded : ofGrammarWith check g = .ok l) : ∃ named anonymous : List String,
    l.nodeTypes.map NodeType.ref = named.map (⟨·, true⟩) ++ anonymous.map (⟨·, false⟩) ∧
    named.Pairwise (fun a b => utf8Bytes a < utf8Bytes b) ∧
    anonymous.Pairwise (fun a b => utf8Bytes a < utf8Bytes b) ∧
    (∀ kind, kind ∈ named ↔ g.NamedKind kind) ∧
    (∀ kind, kind ∈ anonymous ↔ g.AnonymousKind kind) ∧
    ∀ i < 65535, l.nodeKindForId? (i + 1) = l.nodeTypes[i]?.map NodeType.kind ∧
      l.nodeKindIsNamed (i + 1) = l.nodeTypes[i]?.any NodeType.named := by
  obtain ⟨_, start, _, rfl⟩ := ofGrammarWith_eq_ok.mp loaded
  refine ⟨g.namedTypes.keys, g.anonymousKinds.toList, g.refs_nodeTypes,
    g.keys_namedTypes_increasing, g.toList_anonymousKinds_increasing, ?_, ?_, ?_⟩
  · intro kind
    rw [Std.ExtTreeMap.mem_keys, Grammar.mem_namedTypes]
  · intro kind
    rw [Std.ExtTreeSet.mem_toList, Grammar.mem_anonymousKinds]
  · intro i below
    rw [nodeKindForId?, nodeKindIsNamed, symbol?_succ _ below]
    cases (tables g start).nodeTypes[i]? <;> simp [NodeType.ref]

def itemBody : Rule := .seq [.aliased "item" (.symbol "_item"), .token (.literal "stop")]

def items : Grammar where
  name := "items"
  rules := .ofList [("_item", Rule.literal "i"), ("source_file", itemBody)]
  extras := some [.literal " "]
  externals := some [.symbol "indent", .literal "fi"]

/-- The item is listed under its name, and so are the words of the body, the extras and the
externals. -/
theorem items_kinds_listed : ∃ l, ofGrammar items = .ok l ∧ ∃ named anonymous : List String,
    l.nodeTypes.map NodeType.ref = named.map (⟨·, true⟩) ++ anonymous.map (⟨·, false⟩) ∧
    (∀ kind ∈ ["indent", "item", "source_file"], kind ∈ named) ∧
    (∀ kind ∈ [" ", "fi", "stop"], kind ∈ anonymous) ∧
    ∀ i < 65535, l.nodeKindForId? (i + 1) = l.nodeTypes[i]?.map NodeType.kind := by
  have loaded : ofGrammar items = .ok (tables items "source_file") :=
    ofGrammarWith_eq_ok.mpr ⟨by cbv, "source_file", by cbv, rfl⟩
  obtain ⟨named, anonymous, refs, _, _, isNamed, isAnonymous, numbers⟩ := kinds_listed loaded
  have rule : items.rule? "source_file" = some itemBody := by cbv
  refine ⟨_, loaded, named, anonymous, refs, ?_, ?_, fun i below => (numbers i below).1⟩
  · simp only [List.forall_mem_cons, isNamed]
    refine ⟨?_, ?_, ?_, List.forall_mem_nil _⟩
    · exact .external (r := .symbol "indent") (by decide) rfl (by cbv)
    · exact .aliased (a := .aliased "item" (.symbol "_item")) rule (by decide) rfl rfl rfl rfl
    · exact .rule rule (by cbv)
  · simp only [List.forall_mem_cons, isAnonymous]
    refine ⟨?_, ?_, ?_, List.forall_mem_nil _⟩
    · exact .extra (show .literal " " ∈ items.extraRules by decide) .here (.literal rfl)
    · exact .external (r := .literal "fi") (by decide) rfl
    · refine .rule (s := .token (.literal "stop")) rule rfl ?_ (.token rfl rfl rfl)
      exact .down (by simp [Rule.Covers, itemBody, Rule.seq, RuleType.isToken]) (by decide)
        (by decide) .here

def stowedBody : Rule :=
  { type := .aliased, value := some (.string "y"), content := some (.seq [.literal "x"]),
    members := [.literal "z"] }

def stowed : Grammar where
  name := "stowed"
  rules := .ofList [("source_file", stowedBody)]

/-- A literal among the members of an alias is no kind, though nothing covers it. -/
theorem stowed_unlisted : ∃ l, ofGrammar stowed = .ok l ∧
    stowed.rule? "source_file" = some stowedBody ∧ stowedBody.isLexical = false ∧
    stowedBody.Uncovered (.literal "z") ∧ (Rule.literal "z").stringValue? = some "z" ∧
    ⟨"z", false⟩ ∉ l.nodeTypes.map NodeType.ref := by
  refine ⟨tables stowed "source_file", ?_, by cbv, by decide, ?_, rfl, ?_⟩
  · exact ofGrammarWith_eq_ok.mpr ⟨by cbv, "source_file", by cbv, rfl⟩
  · refine .down ?_ (Rule.mem_children.mpr (.inr (List.mem_singleton_self _))) .here
    rintro (h | h | ⟨_, c, hc, h⟩)
    · cases h
    · cases h
    · cases hc
      cases h
  · have kinds : stowed.anonymousKinds.toList = ["x", "y"] := by cbv
    show ⟨"z", false⟩ ∉ stowed.nodeTypes.map NodeType.ref
    rw [Grammar.anonymous_mem_refs, ← Std.ExtTreeSet.mem_toList, kinds]
    decide

end Language
end GrammarArtifact
