import GrammarArtifact.Proofs.Expansion.Consistency
import GrammarArtifact.Proofs.Expansion.Exact
import GrammarArtifact.Proofs.Expansion.Kinds
import GrammarArtifact.Proofs.NodeType.Exact

/-! # What an entry lists

A summary cuts a hidden rule off inside itself. An entry keeps what this cut keeps: the
fields, the kinds of the children and the slots that are never empty are those of the
expansions in which hidden rules are replaced as often as they are met. The kinds that
a field lists are not. A chain to a node can be cut short, but what is left out may be
the field itself, so that a field that a hidden rule puts around itself can lack the
kinds of that rule. -/

namespace GrammarArtifact

/-! ## Tokens hold no fields -/

theorem Rule.allTokenized_iff {members : List Rule} :
    allTokenized members = true ↔ ∀ m ∈ members, m.isTokenized = true := by
  induction members with
  | nil => simp [allTokenized]
  | cons m ms ih => simp [allTokenized, ih]

namespace Grammar
variable {g : Grammar} {name : String} {body r : Rule} {entered fields : List String} {t : Shape}

/-- What is in a token, or in a part of one, is part of a token, and the nodes there are anonymous. -/
theorem shape_of_token (g : Grammar) (h : r.isLexical = true ∨ r.isTokenized = true) :
    match g.shape r with
    | .nothing => True
    | .node ref => ref.named = false
    | .choice members => ∀ m ∈ members, m.isTokenized = true
    | .wrapper content => content.isLexical = true ∨ content.isTokenized = true
    | .hidden _ _ | .seq _ | .repeated _ _ | .field _ _ => False := by
  have kind := Shape.ofKind?_eq
  obtain ⟨type, value, ref, content, members, named, flags, context⟩ := r
  cases type with
  | blank | pattern => simp [shape]
  | string | token | immediateToken =>
    simp only [shape]
    grind
  | choice =>
    simp only [Rule.isLexical, Rule.isTokenized, Rule.allTokenized_iff, Bool.and_eq_true] at h
    rcases h with ⟨_, h⟩ | h
    · exact h
    · exact h
  | prec | precLeft | precRight | precDynamic =>
    cases content with
    | none =>
      simp [Rule.isLexical, Rule.isTokenized, Rule.contentLexical, Rule.contentTokenized] at h
    | some c => exact h
  | _ => simp [Rule.isLexical, Rule.isTokenized] at h

/-- No chain leads from a token to a field. -/
theorem Chain.not_field_of_token (hc : g.Chain (g.shape r) entered fields t)
    (h : r.isLexical = true ∨ r.isTokenized = true) (f : String) (c : Rule) : t ≠ .field f c := by
  generalize hs : g.shape r = s at hc
  induction hc generalizing r with
  | refl =>
    intro ht
    have := g.shape_of_token h
    rw [hs, ht] at this
    exact this
  | @part s m _ _ _ hm _ ih =>
    have inner := g.shape_of_token h
    rw [hs] at inner
    cases s with
    | choice members => exact ih (.inr (inner m hm)) rfl
    | wrapper content => exact ih (List.mem_singleton.mp hm ▸ inner) rfl
    | nothing | node _ => cases hm
    | hidden _ _ | seq _ | repeated _ _ | field _ _ => exact inner.elim
  | hidden _ _ | field _ _ =>
    have := g.shape_of_token h
    rw [hs] at this
    exact this.elim

/-! ## Slots and chains -/

theorem leads_nil {s : Shape} {goal : List String → Shape → Prop} : g.Leads [] s goal ↔
    ∃ entered fields t, g.Chain s entered fields t ∧ entered.Nodup ∧ goal fields t := by
  simp [Leads, Avoids]

/-- The kinds in a slot are those at the ends of the chains that enter no rule twice. -/
theorem mem_slot_types {p : Place} {kind : NodeRef} :
    kind ∈ ((g.summarize [] body).slot p).types ↔
      ∃ entered fields, g.Chain (g.shape body) entered fields (.node kind) ∧ entered.Nodup ∧
        p.holds ⟨kind, fields⟩ = true := by
  rw [mem_types_summarize, leads_nil]
  constructor
  · intro ⟨entered, fields, t, hc, hn, ht, hp⟩
    exact ⟨entered, fields, ht ▸ hc, hn, hp⟩
  · intro ⟨entered, fields, hc, hn, hp⟩
    exact ⟨entered, fields, _, hc, hn, rfl, hp⟩

/-- **The children are the named nodes that any chain reaches outside of fields.** A chain that is
cut short stays outside of fields. -/
theorem mem_children_types {kind : NodeRef} :
    kind ∈ ((g.summarize [] body).slot .children).types ↔
      kind.named = true ∧ ∃ entered, g.Chain (g.shape body) entered [] (.node kind) := by
  rw [mem_slot_types]
  simp only [Place.holds, Bool.and_eq_true, List.isEmpty_iff]
  constructor
  · intro h
    obtain ⟨entered, fields, hc, _, hnamed, hf⟩ := h
    exact ⟨hnamed, entered, hf ▸ hc⟩
  · intro h
    obtain ⟨hnamed, entered, hc⟩ := h
    obtain ⟨entered', fields', hc', hn, _, hf⟩ := hc.exists_nodup
    exact ⟨entered', fields', hc', hn, hnamed, List.sublist_nil.mp hf⟩

/-- **The fields are those that any chain reaches.** -/
theorem mem_fields {f : String} : f ∈ (g.summarize [] body).fields ↔
    ∃ entered fields c, g.Chain (g.shape body) entered fields (.field f c) := by
  rw [mem_fields_summarize, leads_nil]
  constructor
  · intro ⟨entered, fields, t, hc, _, c, ht⟩
    exact ⟨entered, fields, c, ht ▸ hc⟩
  · intro ⟨entered, fields, c, hc⟩
    obtain ⟨entered', fields', hc', hn, _, _⟩ := hc.exists_nodup
    exact ⟨entered', fields', _, hc', hn, c, rfl⟩

/-- A slot that can have no nodes has no kinds, and only such a slot. -/
theorem possible_iff_types {p : Place} : ((g.summarize [] body).slot p).quantity.possible = true ↔
    ∃ kind, kind ∈ ((g.summarize [] body).slot p).types :=
  ((g.summarize_consistent [] body).slot p).possible

/-! ## Entries and chains -/

/-- A chain through a field can be cut short without losing the field, if what follows the field
keeps clear of the rules that lead to it. -/
theorem Chain.exists_nodup_through {f : String} {c : Rule} {e fs : List String} {kind : NodeRef}
    (hc : g.Chain (g.shape body) entered fields (.field f c))
    (hk : g.Chain (g.shape c) e fs (.node kind)) (apart : e.Disjoint entered) :
    ∃ e fs, g.Chain (g.shape body) e fs (.node kind) ∧ e.Nodup ∧ f ∈ fs := by
  obtain ⟨entered', fields', hc', hn, he, _⟩ := hc.exists_nodup
  obtain ⟨e', fs', hk', hn', he', _⟩ := hk.exists_nodup
  refine ⟨_, _, hc'.append (.field hk'), ?_, by simp⟩
  refine List.nodup_append'.mpr ⟨hn, hn', ?_⟩
  intro other hm hm'
  exact apart (he'.subset hm') (he.subset hm)

/-- **Which nodes a field lists.** An entry has every field that is reached. It lists a node of an
expansion of the content just if a chain that enters no rule twice leads to the kind of the node
through the field, and surely if no chain from the content to the node comes back to a rule that
leads to the field. -/
theorem entry_field_types_iff (hr : g.rule? name = some body) (hv : g.isHidden name = false) :
    ∃ t, g.entry? name = some t ∧ ∀ f entered fields c,
      g.Chain (g.shape body) entered fields (.field f c) →
      ∃ info, t.field? f = some info ∧ ∀ w, g.Expands c w → ∀ n ∈ w,
        (n.ref ∈ info.types ↔
          ∃ e fs, g.Chain (g.shape body) e fs (.node n.ref) ∧ e.Nodup ∧ f ∈ fs) ∧
        ((∀ e, g.Chain (g.shape c) e n.fields (.node n.ref) → e.Disjoint entered) →
          n.ref ∈ info.types) := by
  refine ⟨_, entry?_of_rule hr hv, ?_⟩
  intro f entered fields c hc
  cases hl : body.isLexical with
  | true => exact absurd rfl (hc.not_field_of_token (.inl hl) f c)
  | false =>
    have hm : f ∈ (g.summarize [] body).fields := mem_fields.mpr ⟨entered, fields, c, hc⟩
    rw [nodeType_of_not_lexical hl]
    refine ⟨_, Summary.field?_of_mem hm, ?_⟩
    intro w hw n hn
    have listed : n.ref ∈ ((g.summarize [] body).slot (.field f)).info.types ↔
        ∃ e fs, g.Chain (g.shape body) e fs (.node n.ref) ∧ e.Nodup ∧ f ∈ fs := by
      rw [Slot.info, Std.ExtTreeSet.mem_toList, mem_slot_types]
      simp [Place.holds]
    refine ⟨listed, ?_⟩
    intro apart
    obtain ⟨e, hk⟩ := hw.chain_of_mem hn
    exact listed.mpr (hc.exists_nodup_through hk (apart e hk))

def exprBody : Rule := .choice [.symbol "item", .field "inner" (.symbol "_expr")]

/-- A grammar in which a hidden rule puts a field around itself. -/
def nests : Grammar where
  name := "nests"
  rules := .ofList
    [("_expr", exprBody), ("item", Rule.pattern "[a-z]+"), ("list", Rule.symbol "_expr")]

theorem nests_rule : nests.rule? "list" = some (.symbol "_expr") := by cbv

theorem nests_visible : nests.isHidden "list" = false := by cbv

theorem shape_expr : nests.shape (.symbol "_expr") = .hidden "_expr" exprBody := by cbv

theorem nests_item : nests.shape (.symbol "item") = .node ⟨"item", true⟩ := by cbv

/-- The inner field lists nothing, since the rule in it is cut off. -/
theorem nests_inner : ((nests.summarize [] (.symbol "_expr")).slot (.field "inner")).types = ∅ := by
  have body : nests.shape exprBody = .choice [.symbol "item", .field "inner" (.symbol "_expr")] :=
    rfl
  have inner : nests.shape (.field "inner" (.symbol "_expr")) = .field "inner" (.symbol "_expr") :=
    rfl
  simp [summarize_eq, shape_expr, nests_item, body, inner, Summary.ofShape, unfolded,
    Summary.choice, Place.inside]

theorem nests_reaches_inner : nests.Chain (nests.shape (.symbol "_expr")) ["_expr"] []
    (.field "inner" (.symbol "_expr")) := by
  rw [shape_expr]
  refine .hidden (.part (m := .field "inner" (.symbol "_expr")) ?_ .refl)
  exact List.mem_cons_of_mem _ (List.mem_singleton.mpr rfl)

theorem nests_expands_item : nests.Expands (.symbol "_expr") [itemNode] := by
  unfold Expands
  rw [shape_expr]
  refine .unfold id (.choice List.mem_cons_self ?_)
  rw [nests_item]
  exact .node

/-- The inner field may hold an item, and does not list it: every chain to an item through the
field enters the hidden rule twice. -/
theorem nests_field_types : ∃ t, nests.entry? "list" = some t ∧
    ∃ info, t.field? "inner" = some info ∧
      ∃ w, nests.Expands (.symbol "_expr") w ∧ ∃ n ∈ w, n.ref ∉ info.types ∧
        ¬ ∃ e fs, nests.Chain (nests.shape (.symbol "_expr")) e fs (.node n.ref) ∧ e.Nodup ∧
          "inner" ∈ fs := by
  obtain ⟨t, ht, h⟩ := entry_field_types_iff nests_rule nests_visible
  obtain ⟨info, hi, lists⟩ := h "inner" _ _ _ nests_reaches_inner
  have same := Option.some.inj (ht.symm.trans (entry?_of_not_lexical nests_rule nests_visible rfl))
  have hinfo := Summary.eq_info_of_slot? (p := .field "inner") (same ▸ hi)
  have unlisted : itemNode.ref ∉ info.types := by simp [hinfo, Slot.info, nests_inner]
  have listed := (lists _ nests_expands_item _ List.mem_cons_self).1
  exact ⟨t, ht, info, hi, _, nests_expands_item, _, List.mem_cons_self, unlisted,
    fun hc => unlisted (listed.mpr hc)⟩

/-- **What an entry keeps of every expansion.** A slot that is required is never empty; the children
are the named kinds that chains reach outside of fields, and are absent if there are none; and the
fields are those that chains reach. Chains may enter a hidden rule any number of times. -/
theorem entry_keeps (hr : g.rule? name = some body) (hv : g.isHidden name = false)
    (hl : body.isLexical = false) : ∃ t, g.entry? name = some t ∧
      (∀ p info, t.slot? p = some info → info.required = true →
        ∀ w, g.Expands body w → p.kinds w ≠ []) ∧
      (∀ info, t.children = some info → ∀ kind, kind ∈ info.types ↔
        kind.named = true ∧ ∃ entered, g.Chain (g.shape body) entered [] (.node kind)) ∧
      (t.children = none ↔ ¬ ∃ kind : NodeRef, kind.named = true ∧
        ∃ entered, g.Chain (g.shape body) entered [] (.node kind)) ∧
      (∀ f, f ∈ t.fields ↔
        ∃ entered fields c, g.Chain (g.shape body) entered fields (.field f c)) := by
  refine ⟨_, entry?_of_not_lexical hr hv hl, ?_, ?_, ?_, ?_⟩
  · intro p info h hreq w hw
    rw [Summary.eq_info_of_slot? h, Slot.info, summarize_eq] at hreq
    exact hw.kinds_ne_nil hreq
  · intro info h kind
    rw [Summary.eq_info_of_slot? (p := .children) h, Slot.info, Std.ExtTreeSet.mem_toList,
      mem_children_types]
  · have absent : ((g.summarize [] body).nodeType name).children = none ↔
        ¬ ((g.summarize [] body).slot .children).quantity.possible = true := by
      simp [Summary.nodeType, Summary.slot]
    rw [absent, possible_iff_types]
    simp only [mem_children_types]
  · intro f
    have same : f ∈ ((g.summarize [] body).nodeType name).fields ↔
        f ∈ (g.summarize [] body).fields := Std.ExtTreeMap.mem_map
    rw [same, mem_fields]

/-- What the entry of a list keeps, though its hidden rule is met inside itself: the inner field,
and the items outside of it. -/
theorem nests_keeps : ∃ t, nests.entry? "list" = some t ∧ "inner" ∈ t.fields ∧
    ∃ info, t.children = some info ∧ ⟨"item", true⟩ ∈ info.types := by
  obtain ⟨t, ht, _, children, absent, fields⟩ := entry_keeps nests_rule nests_visible rfl
  obtain ⟨e, hc⟩ := nests_expands_item.chain_of_mem List.mem_cons_self
  refine ⟨t, ht, (fields "inner").mpr ⟨_, _, _, nests_reaches_inner⟩, ?_⟩
  cases h : t.children with
  | none => exact absurd ⟨_, rfl, e, hc⟩ (absent.mp h)
  | some info => exact ⟨info, rfl, (children info h _).mpr ⟨rfl, e, hc⟩⟩

end Grammar
end GrammarArtifact
