import GrammarArtifact.Proofs.Expansion.Derivation

/-! # Summaries describe expansions

Every slot of a summary describes the words that the expansions of the rule have at
its place, if a hidden rule inside itself adds nothing. Of the expansions in which
hidden rules are replaced as often as they are met, a summary still knows one thing
for certain: a place that it requires is never empty. -/

namespace GrammarArtifact

theorem Summary.describes_ofNode (ref : NodeRef) (p : Place) :
    ((ofNode ref).slot p).Describes {p.kinds [⟨ref, []⟩]} := by
  have nowhere : Slot.Describes {} {[]} := .empty
  cases p with
  | field name => simpa [Place.kinds, Place.holds] using nowhere
  | anywhere =>
    have single : Place.kinds .anywhere [⟨ref, []⟩] = [ref] := rfl
    rw [slot_ofNode_anywhere, single]
    exact .one ref
  | nowhere => exact nowhere
  | children =>
    cases h : ref.named with
    | true => simpa [Place.kinds, Place.holds, h] using Slot.Describes.one ref
    | false => simpa [Place.kinds, Place.holds, h] using nowhere

/-- A choice requires a place only if each of its members does. -/
theorem Summary.required_of_choice {α : Type} {f : α → Summary} {p : Place} {items : List α}
    (h : ((choice (items.map f)).slot p).quantity.required = true) :
    ∀ item ∈ items, ((f item).slot p).quantity.required = true := by
  induction items with
  | nil => simp
  | cons item rest ih =>
    cases rest with
    | nil => simpa [choice] using h
    | cons item' rest =>
      simp only [List.map_cons, choice, slot_either, Slot.either, Quantity.either,
        Bool.and_eq_true] at h
      intro i hi
      rcases List.mem_cons.mp hi with rfl | hi
      · exact h.1
      · exact ih h.2 i hi

namespace Grammar
variable {g : Grammar} {u : Unfolding} {inside : List String} {s : Shape} {w : List PlacedNode}

/-- **Every slot describes the expansions of its rule** in which a hidden rule inside itself adds
nothing. -/
theorem summarize_describes (g : Grammar) (inside : List String) (r : Rule) (p : Place) :
    ((g.summarize inside r).slot p).Describes (g.words .cut inside (g.shape r) p) := by
  induction inside, r using g.expansion_induction generalizing p with
  | nothing inside r h =>
    rw [summarize_eq, h, words_nothing]
    simpa [Summary.ofShape] using Slot.Describes.empty
  | node inside r ref h =>
    rw [summarize_eq, h, words_node]
    exact Summary.describes_ofNode ref p
  | cut inside r name body h hm =>
    have stops : Unfolding.Stops .cut inside name := hm
    rw [summarize_eq, h, words_stop stops]
    simpa [Summary.ofShape, unfolded, hm] using Slot.Describes.empty
  | hidden inside r name body h hm ih =>
    have go : ¬ Unfolding.Stops .cut inside name := hm
    rw [summarize_eq, h, words_unfold go]
    simpa [Summary.ofShape, unfolded, hm] using ih p
  | seq inside r members h ih =>
    rw [summarize_eq, h, words_seq]
    exact .sequence fun m hm => ih m hm p
  | choice inside r members h ih =>
    rw [summarize_eq, h]
    by_cases hne : members = []
    · subst hne
      rw [words_choice_nil]
      simpa [Summary.ofShape, Summary.choice] using Slot.Describes.empty
    · rw [words_choice hne]
      exact .choice hne fun m hm => ih m hm p
  | repeated inside r atLeastOnce content h ih =>
    rw [summarize_eq, h, words_repeated]
    simpa [Summary.ofShape] using (ih p).repeated atLeastOnce
  | field inside r name content h ih =>
    rw [summarize_eq, h, words_field]
    simpa [Summary.ofShape] using ih (p.inside name)
  | wrapper inside r content h ih =>
    rw [summarize_eq, h, words_wrapper]
    exact ih p

/-- The summary of a shape inside of the given hidden rules. -/
def shapeSummary (g : Grammar) (inside : List String) (s : Shape) : Summary :=
  .ofShape (g.summarize inside) (g.unfolded inside) s

/-- **A place that is required is never empty**, however often hidden rules are replaced. A rule
that is cut off requires nothing, so that the cut can only lose requirements. -/
theorem Derives.kinds_ne_nil {p : Place} (h : g.Derives u inside s w)
    (hr : ((g.shapeSummary inside s).slot p).quantity.required = true) : p.kinds w ≠ [] := by
  induction h generalizing p with
  | nothing | seqNil | choiceNil =>
    simp [shapeSummary, Summary.ofShape, Summary.sequence, Summary.choice] at hr
  | @node inside ref =>
    exact (Summary.describes_ofNode ref p).required.mp hr _ rfl
  | @stop inside name body stops =>
    cases u with
    | free => exact absurd stops id
    | cut =>
      have hm : name ∈ inside := stops
      simp [shapeSummary, Summary.ofShape, unfolded, hm] at hr
  | @unfold inside name body w _ _ ih =>
    by_cases hm : name ∈ inside
    · simp [shapeSummary, Summary.ofShape, unfolded, hm] at hr
    · simp only [shapeSummary, Summary.ofShape, unfolded, if_neg hm] at hr
      rw [summarize_eq] at hr
      exact ih hr
  | @seqCons inside m ms v w _ _ ihv ihw =>
    simp only [shapeSummary, Summary.ofShape, List.map_cons, Summary.sequence, Summary.slot_append,
      Slot.append, Quantity.append, Bool.or_eq_true] at hr
    rw [Place.kinds_append]
    rcases hr with hr | hr
    · rw [summarize_eq] at hr
      simp [ihv hr]
    · simp [ihw hr]
  | @choice inside m ms w hm _ ih =>
    have hr := Summary.required_of_choice hr m hm
    rw [summarize_eq] at hr
    exact ih hr
  | @repeated inside atLeastOnce c parts _ hne ih =>
    simp only [shapeSummary, Summary.ofShape, Summary.slot_repeated, Slot.repeated,
      Quantity.repeated, Bool.and_eq_true, summarize_eq g inside c] at hr
    obtain ⟨part, rest, hp⟩ := List.exists_cons_of_ne_nil (hne hr.2)
    subst hp
    simp [ih part (by simp) hr.1]
  | @field inside name c w _ ih =>
    simp only [shapeSummary, Summary.ofShape, Summary.slot_inField, summarize_eq g inside c] at hr
    rw [Place.kinds_map_inField]
    exact ih hr
  | @wrapper inside c w _ ih =>
    simp only [shapeSummary, Summary.ofShape, summarize_eq g inside c] at hr
    exact ih hr

end Grammar
end GrammarArtifact
