import Mathlib
import GrammarArtifact.Proofs.Expansion.Laws
import GrammarArtifact.Proofs.NodeType.Exact
import GrammarArtifact.Proofs.NodeType.Precedence

/-! # Refactored bodies

A sequence inside a sequence can give way to its members, and so can a choice inside a
choice; the branches of a choice can be put in another order and repeated; and a choice
inside a sequence can be brought to the outside. None of this changes a summary,
wherever in a body it is done, and also if it is done in the body of a hidden rule: the
rule adds the same nodes to any rule around it, and is a token just if it was one. -/

namespace GrammarArtifact
namespace Rule
variable {r r' : Rule} {ms ms' : List Rule}

/-- A rule of the given kind with the given members. Its other attributes are free. -/
structure Joins (r : Rule) (kind : RuleType) (ms : List Rule) : Prop where
  type : r.type = kind
  members : r.members = ms

/-- One place of a body is rewritten. -/
inductive Refactors : Rule → Rule → Prop
  /-- A sequence inside a sequence gives way to its members. -/
  | flattenSeq {r r' s : Rule} {before ms after : List Rule} :
    r.Joins .seq (before ++ s :: after) → s.Joins .seq ms →
    r'.Joins .seq (before ++ ms ++ after) → Refactors r r'
  /-- A choice inside a choice gives way to its branches, unless it has none. -/
  | flattenChoice {r r' s : Rule} {before ms after : List Rule} :
    r.Joins .choice (before ++ s :: after) → s.Joins .choice ms → ms ≠ [] →
    r'.Joins .choice (before ++ ms ++ after) → Refactors r r'
  /-- The branches of a choice are put in another order or repeated. -/
  | rechoose {r r' : Rule} {ms ms' : List Rule} : r.Joins .choice ms → r'.Joins .choice ms' →
    (∀ m, m ∈ ms ↔ m ∈ ms') → Refactors r r'
  /-- A sequence with a choice in it becomes a choice between sequences, one for each branch. -/
  | distribute {r r' s : Rule} {before ms after branches : List Rule} :
    r.Joins .seq (before ++ s :: after) → s.Joins .choice ms → ms ≠ [] →
    r'.Joins .choice branches →
    List.Forall₂ (fun m branch => branch.Joins .seq (before ++ m :: after)) ms branches →
    Refactors r r'
  | content {r c c' : Rule} : r.content = some c → Refactors c c' →
    Refactors r { r with content := some c' }
  | member {r m m' : Rule} {before after : List Rule} : r.members = before ++ m :: after →
    Refactors m m' → Refactors r { r with members := before ++ m' :: after }

/-! ## Sequences and choices -/

theorem Joins.summary_seq (h : r.Joins .seq ms) (expand : String → Summary) :
    r.summary expand = .sequence (ms.map (·.summary expand)) := by
  obtain ⟨type, value, name, content, members, named, flags, context⟩ := r
  obtain ⟨rfl, rfl⟩ := h
  rw [summary, sequenceSummary_eq]

theorem Joins.summary_choice (h : r.Joins .choice ms) (expand : String → Summary) :
    r.summary expand = .choice (ms.map (·.summary expand)) := by
  obtain ⟨type, value, name, content, members, named, flags, context⟩ := r
  obtain ⟨rfl, rfl⟩ := h
  rw [summary, choiceSummary_eq]

theorem Joins.not_token_seq (h : r.Joins .seq ms) :
    r.isLexical = false ∧ r.isTokenized = false := by
  obtain ⟨type, value, name, content, members, named, flags, context⟩ := r
  obtain ⟨rfl, rfl⟩ := h
  exact ⟨rfl, rfl⟩

/-- A choice is a token if all its branches are read as tokens. -/
theorem Joins.token_choice (h : r.Joins .choice ms) :
    r.isLexical = (!ms.isEmpty && r.isTokenized) ∧
      (r.isTokenized = true ↔ ∀ m ∈ ms, m.isTokenized = true) := by
  obtain ⟨type, value, name, content, members, named, flags, context⟩ := r
  obtain ⟨rfl, rfl⟩ := h
  exact ⟨rfl, allTokenized_iff⟩

/-- A choice is no token if one of its branches is not read as one. -/
theorem Joins.not_token_choice {branch : Rule} (h : r.Joins .choice ms) (hm : branch ∈ ms)
    (beside : branch.isTokenized = false) : r.isLexical = false ∧ r.isTokenized = false := by
  have tokenized : r.isTokenized = false := by
    by_contra token
    have all := h.token_choice.2.mp (by simpa using token) branch hm
    rw [beside] at all
    cases all
  rw [h.token_choice.1, tokenized, Bool.and_false]
  exact ⟨rfl, rfl⟩

/-- Two choices add the same nodes if their branches have the same join and are tokens alike. -/
theorem Joins.sameNodes_choice (h : r.Joins .choice ms) (h' : r'.Joins .choice ms')
    (empty : ms = [] ↔ ms' = [])
    (tokens : (∀ m ∈ ms, m.isTokenized = true) ↔ ∀ m ∈ ms', m.isTokenized = true)
    (join : ∀ expand : String → Summary, Summary.choice (ms.map (·.summary expand)) =
      .choice (ms'.map (·.summary expand))) : r.SameNodes r' := by
  have tokenized : r.isTokenized = r'.isTokenized :=
    Bool.eq_iff_iff.mpr (h.token_choice.2.trans (tokens.trans h'.token_choice.2.symm))
  have isEmpty : ms.isEmpty = ms'.isEmpty :=
    Bool.eq_iff_iff.mpr (List.isEmpty_iff.trans (empty.trans List.isEmpty_iff.symm))
  refine ⟨⟨?_, fun expand => ?_⟩, tokenized⟩
  · rw [h.token_choice.1, h'.token_choice.1, isEmpty, tokenized]
  · rw [h.summary_choice, h'.summary_choice, join]

/-! ## Rewriting -/

/-- A rewritten rule shows the same literal, since no literal is ever rewritten. -/
theorem Refactors.stringValue?_eq (h : r.Refactors r') : r.stringValue? = r'.stringValue? := by
  cases h with
  | flattenSeq hr _ hr' => simp [stringValue?, hr.type, hr'.type]
  | flattenChoice hr _ _ hr' => simp [stringValue?, hr.type, hr'.type]
  | rechoose hr hr' _ => simp [stringValue?, hr.type, hr'.type]
  | distribute hr _ _ hr' _ => simp [stringValue?, hr.type, hr'.type]
  | content _ _ | member _ _ => rfl

theorem sameNodes_refl (r : Rule) : r.SameNodes r := ⟨.refl r, rfl⟩

theorem equivalence_sameNodes : Equivalence SameNodes where
  refl := sameNodes_refl
  symm h := ⟨h.toSameType.symm, h.tokenized.symm⟩
  trans h h' := by
    have summary := fun expand => (h.summary expand).trans (h'.summary expand)
    exact ⟨⟨h.lexical.trans h'.lexical, summary⟩, h.tokenized.trans h'.tokenized⟩

/-- **A rewritten rule adds the same nodes to any rule around it.** -/
theorem Refactors.sameNodes (h : r.Refactors r') : r.SameNodes r' := by
  induction h with
  | @flattenSeq r r' s before ms after hr hs hr' =>
    obtain ⟨lexical, tokenized⟩ := hr.not_token_seq
    obtain ⟨lexical', tokenized'⟩ := hr'.not_token_seq
    refine ⟨⟨lexical.trans lexical'.symm, fun expand => ?_⟩, tokenized.trans tokenized'.symm⟩
    rw [hr.summary_seq, hr'.summary_seq]
    simp only [List.map_append, List.map_cons, Summary.sequence_append, Summary.sequence,
      hs.summary_seq, Summary.append_assoc]
  | @flattenChoice r r' s before ms after hr hs filled hr' =>
    refine hr.sameNodes_choice hr' (by simp [filled]) ?_ fun expand => ?_
    · simp only [List.mem_append, List.mem_cons, or_imp, forall_and, forall_eq, hs.token_choice.2]
      tauto
    · simp only [List.map_append, List.map_cons, hs.summary_choice]
      exact Summary.choice_flatten (by simpa using filled)
  | @rechoose r r' ms ms' hr hr' same =>
    refine hr.sameNodes_choice hr' ?_ (by simp only [same]) fun expand => ?_
    · simp only [List.eq_nil_iff_forall_not_mem, same]
    · exact Summary.choice_congr fun summary => by simp only [List.mem_map, same]
  | @distribute r r' s before ms after branches hr hs filled hr' parts =>
    obtain ⟨lexical, tokenized⟩ := hr.not_token_seq
    obtain ⟨lexical', tokenized'⟩ : r'.isLexical = false ∧ r'.isTokenized = false := by
      cases parts with
      | nil => exact absurd rfl filled
      | cons part _ => exact hr'.not_token_choice List.mem_cons_self part.not_token_seq.2
    refine ⟨⟨lexical.trans lexical'.symm, fun expand => ?_⟩, tokenized.trans tokenized'.symm⟩
    have branches := map_congr parts fun m branch h => (h.summary_seq expand).symm
    rw [hr.summary_seq, hr'.summary_choice, ← branches]
    simp only [List.map_append, List.map_cons, hs.summary_choice]
    rw [Summary.sequence_choice (by simpa using filled), List.map_map]
    rfl
  | @content r c c' hc inner ih =>
    refine .congr ?_ (List.forall₂_same.mpr fun m _ => sameNodes_refl m) fun _ => ?_
    · rw [hc]
      exact .some ih
    · rw [hc]
      exact inner.stringValue?_eq
  | @member r m m' before after hm _ ih =>
    refine .congr (rel_refl sameNodes_refl _) ?_ fun _ => rfl
    have same : ∀ ms : List Rule, List.Forall₂ SameNodes ms ms :=
      fun ms => List.forall₂_same.mpr fun m _ => sameNodes_refl m
    rw [hm]
    exact List.rel_append (same before) (.cons ih (same after))

end Rule

namespace Grammar
variable {g : Grammar} {r r' : Rule}

/-- **Refactored bodies have the same summary.** So it is in every grammar and inside of any hidden
rules, also if the bodies of the rules of the grammar are refactored too. -/
theorem summarize_refactored (g : Grammar) (h : Relation.EqvGen Rule.Refactors r r')
    (inside : List String) : g.summarize inside r' = g.summarize inside r ∧
      ∀ f : String → Rule → Rule, (∀ name body, g.rule? name = some body →
          Relation.EqvGen Rule.Refactors body (f name body)) →
        (g.mapRules f).summarize inside r' = g.summarize inside r := by
  have same : ∀ {r r'}, Relation.EqvGen Rule.Refactors r r' → r.SameNodes r' := by
    intro r r' h
    exact Rule.equivalence_sameNodes.eqvGen_iff.mp (h.mono fun _ _ => Rule.Refactors.sameNodes)
  refine ⟨?_, fun f bodies => ?_⟩
  · unfold summarize
    cases g.rules.size with
    | zero => exact ((same h).summary _).symm
    | succ room => exact ((same h).summary _).symm
  · have types : ∀ name body, g.rule? name = some body → body.SameType (f name body) :=
      fun name body hr => (same (bodies name body hr)).toSameType
    exact summarize_mapRules types inside (same h).toSameType

/-- The body of a list with a head, and the same one with its choice brought to the outside. -/
def headedBody : Rule := .seq [.field "head" (.symbol "item"), .choice [.symbol "_items", .blank]]

def headedCases : Rule :=
  .choice [.seq [.field "head" (.symbol "item"), .blank],
    .seq [.field "head" (.symbol "item"), .symbol "_items"]]

def itemsTurned : Rule := .choice [.seq [.symbol "item", .symbol "_items"], .symbol "item"]

/-- A headed list has the same summary if both its body and the items are turned around. -/
theorem lists_refactored : headedBody ≠ headedCases ∧ itemsBody ≠ itemsTurned ∧
    lists.summarize [] headedCases = lists.summarize [] headedBody ∧
    (lists.setRule "_items" itemsTurned).summarize [] headedCases =
      lists.summarize [] headedBody := by
  have items : lists.rule? "_items" = some itemsBody := by cbv
  have row : headedBody.Joins .seq
      ([.field "head" (.symbol "item")] ++ .choice [.symbol "_items", .blank] :: []) := ⟨rfl, rfl⟩
  have distributed : headedBody.Refactors (.choice [.seq [.field "head" (.symbol "item"),
      .symbol "_items"], .seq [.field "head" (.symbol "item"), .blank]]) :=
    .distribute row ⟨rfl, rfl⟩ (List.cons_ne_nil _ _) ⟨rfl, rfl⟩
      (.cons ⟨rfl, rfl⟩ (.cons ⟨rfl, rfl⟩ .nil))
  have body : Relation.EqvGen Rule.Refactors headedBody headedCases :=
    .trans _ _ _ (.rel _ _ distributed)
      (.rel _ _ (.rechoose ⟨rfl, rfl⟩ ⟨rfl, rfl⟩ fun m => (List.Perm.swap _ _ []).mem_iff))
  have turned : Relation.EqvGen Rule.Refactors itemsBody itemsTurned :=
    .rel _ _ (.rechoose ⟨rfl, rfl⟩ ⟨rfl, rfl⟩ fun m => (List.Perm.swap _ _ []).mem_iff)
  obtain ⟨same, everywhere⟩ := summarize_refactored lists body []
  refine ⟨by decide, by decide, same, ?_⟩
  rw [setRule_eq_mapRules items]
  refine everywhere _ fun name r hr => ?_
  by_cases h : name = "_items"
  · subst h
    rw [if_pos rfl, Option.some.inj (hr.symm.trans items)]
    exact turned
  · rw [if_neg h]
    exact .refl r

end Grammar
end GrammarArtifact
