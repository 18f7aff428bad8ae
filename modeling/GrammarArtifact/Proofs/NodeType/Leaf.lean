import GrammarArtifact.Proofs.NodeType.Reach

/-! # The types of tokens

A rule that is a token gets the type of a leaf, and its body is not summarized. The
summary would say the same: a token, and whatever is read as a whole inside of it, has
no fields and shows no named nodes. A literal in it may be a node, but an anonymous
one, and these a type does not list outside of fields. -/

namespace GrammarArtifact

/-- A summary without fields and without children. What nodes it has are anonymous. -/
structure Summary.IsBare (s : Summary) : Prop where
  fields : s.fields = ∅
  children : s.children = {}

namespace Summary.IsBare
variable {s t : Summary}

theorem empty : Summary.IsBare {} := ⟨rfl, rfl⟩

theorem ofNode {ref : NodeRef} (anonymous : ref.named = false) : (Summary.ofNode ref).IsBare := by
  rw [Summary.ofNode, if_neg (by simp [anonymous])]
  exact ⟨rfl, rfl⟩

theorem either (hs : s.IsBare) (ht : t.IsBare) : (s.either t).IsBare where
  fields := by
    refine Std.ExtTreeMap.eq_empty_iff_forall_not_mem.mpr ?_
    intro name h
    rcases mem_mergeSlots.mp h with h | h
    · simp [hs.fields] at h
    · simp [ht.fields] at h
  children := by rw [Summary.either, hs.children, ht.children, Slot.either_self]

theorem choice {l : List Summary} (h : ∀ s ∈ l, s.IsBare) : (Summary.choice l).IsBare :=
  choice_induction .empty (fun _ _ => .either) h

/-- The type made from a bare summary is that of a leaf. -/
theorem nodeType_eq (h : s.IsBare) (kind : String) : s.nodeType kind = .leaf kind true := by
  simp [nodeType, h.fields, h.children, NodeType.leaf]

end Summary.IsBare

namespace Grammar
variable {g : Grammar} {inside : List String} {r body : Rule}

/-- **The summary of a token is bare**, and so is that of what is read as a whole. -/
theorem summarize_isBare (h : r.isLexical = true ∨ r.isTokenized = true) :
    (g.summarize inside r).IsBare := by
  induction inside, r using g.inner_induction with
  | step inside r inner _ =>
    have parts := g.shape_of_token h
    rw [summarize_eq]
    generalize g.shape r = s at parts inner
    cases s with
    | nothing => exact .empty
    | node ref => exact .ofNode parts
    | choice members =>
      refine .choice (List.forall_mem_map.mpr ?_)
      intro m hm
      exact inner m hm (.inr (parts m hm))
    | wrapper content => exact inner content List.mem_cons_self parts
    | hidden _ _ | seq _ | repeated _ _ | field _ _ => exact parts.elim

/-- **A type without the shortcut for tokens is the same.** Whichever rules are being expanded, a
token has neither fields nor children, and neither has what is read as a whole; so a summary gives
the type of a leaf, which the shortcut gives at once. -/
theorem shortcut_agrees (g : Grammar) (inside : List String) (kind : String) (body : Rule) :
    (body.isLexical = true ∨ body.isTokenized = true →
      (g.summarize inside body).fields = ∅ ∧ (g.summarize inside body).children = {} ∧
        (g.summarize inside body).nodeType kind = .leaf kind true) ∧
    (if body.isLexical then .leaf kind true else (g.summarize inside body).nodeType kind) =
      (g.summarize inside body).nodeType kind ∧
    g.nodeType kind body = (g.summarize [] body).nodeType kind := by
  have skipped : ∀ inside, (if body.isLexical then .leaf kind true
      else (g.summarize inside body).nodeType kind) = (g.summarize inside body).nodeType kind := by
    intro inside
    split
    next token => rw [(summarize_isBare (.inl token)).nodeType_eq]
    next => rfl
  refine ⟨?_, skipped inside, skipped []⟩
  intro whole
  have bare : (g.summarize inside body).IsBare := summarize_isBare whole
  exact ⟨bare.fields, bare.children, bare.nodeType_eq kind⟩

/-- A comment with one of two signs before it, or none. -/
def commentBody : Rule :=
  .choice [.token (.literal "//"), .precLeft 1 (.choice [.pattern "#+", .blank])]

/-- A comment is a token, its sign is a node of its summary, and its type is that of a leaf with
the shortcut and without it, also while a rule is being expanded. -/
theorem comment_shortcut : commentBody.isLexical = true ∧
    ⟨"//", false⟩ ∈ ((nests.summarize ["_expr"] commentBody).slot .anywhere).types ∧
    (nests.summarize ["_expr"] commentBody).nodeType "comment" = .leaf "comment" true ∧
    nests.nodeType "comment" commentBody = (nests.summarize [] commentBody).nodeType "comment" := by
  obtain ⟨bare, _, same⟩ := shortcut_agrees nests ["_expr"] "comment" commentBody
  refine ⟨rfl, ?_, (bare (.inl rfl)).2.2, same⟩
  have sign : nests.shape (.token (.literal "//")) = .node ⟨"//", false⟩ := rfl
  have leads : nests.Leads ["_expr"] (nests.shape commentBody) fun _ t => t = .node ⟨"//", false⟩ :=
    (leads_parts rfl).mpr (.inr ⟨.token (.literal "//"), List.mem_cons_self,
      (leads_parts rfl).mpr (.inl sign)⟩)
  rw [mem_types_summarize]
  simpa [Place.holds] using leads

end Grammar
end GrammarArtifact
