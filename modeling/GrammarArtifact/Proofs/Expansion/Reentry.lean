import GrammarArtifact.Proofs.Expansion.Chain

/-! # Hidden rules inside themselves

A hidden rule that is met inside itself is where expansions and summaries part: an
expansion replaces it once more, a summary lets it add nothing. Where chains enter
no hidden rule twice the two sorts of expansions are the same. Where only the
chains to the nodes of one place do so, every expansion still has the same nodes
at that place as one in which the inner rules add nothing. -/

namespace GrammarArtifact
namespace Grammar
variable {g : Grammar} {u : Unfolding} {inside : List String} {s : Shape} {name : String}
  {r body : Rule} {p : Place} {w : List PlacedNode}

/-- No hidden rule is expanded inside itself while the body is expanded. -/
def NeverReenters (g : Grammar) (body : Rule) : Prop :=
  ∀ entered fields t, g.Chain (g.shape body) entered fields t → entered.Nodup

/-- Of the entered rules none is entered twice, and none is among the given ones. -/
def Avoids (inside entered : List String) : Prop :=
  entered.Nodup ∧ ∀ name ∈ entered, name ∉ inside

@[simp] theorem avoids_nil : Avoids inside [] := ⟨List.nodup_nil, by simp⟩

theorem avoids_cons : Avoids inside (name :: entered) ↔
    name ∉ inside ∧ Avoids (name :: inside) entered := by
  simp only [Avoids, List.nodup_cons, List.mem_cons, forall_eq_or_imp, not_or]
  constructor
  · intro ⟨⟨hname, hn⟩, hi, h⟩
    exact ⟨hi, hn, fun other ho => ⟨fun he => hname (he ▸ ho), h other ho⟩⟩
  · intro ⟨hi, hn, h⟩
    exact ⟨⟨fun hm => (h name hm).1 rfl, hn⟩, hi, fun other ho => (h other ho).2⟩

/-- No hidden rule is expanded inside itself or inside one of the given rules. -/
def Fresh (g : Grammar) (inside : List String) (s : Shape) : Prop :=
  ∀ entered fields t, g.Chain s entered fields t → Avoids inside entered

theorem neverReenters_iff_fresh : g.NeverReenters body ↔ g.Fresh [] (g.shape body) :=
  ⟨fun h entered fields t hc => ⟨h entered fields t hc, by simp⟩,
    fun h entered fields t hc => (h entered fields t hc).1⟩

theorem fresh_hidden : g.Fresh inside (.hidden name body) ↔
    name ∉ inside ∧ g.Fresh (name :: inside) (g.shape body) := by
  constructor
  · intro h
    refine ⟨(avoids_cons.mp (h [name] [] _ (.hidden .refl))).1, ?_⟩
    intro entered fields t hc
    exact (avoids_cons.mp (h _ fields t (.hidden hc))).2
  · intro ⟨hname, h⟩ entered fields t hc
    cases hc with
    | refl => exact avoids_nil
    | part hm _ => cases hm
    | hidden hc => exact avoids_cons.mpr ⟨hname, h _ fields t hc⟩

theorem fresh_field {c : Rule} :
    g.Fresh inside (.field name c) ↔ g.Fresh inside (g.shape c) := by
  constructor
  · intro h entered fields t hc
    exact h entered _ t (.field hc)
  · intro h entered fields t hc
    cases hc with
    | refl => exact avoids_nil
    | part hm _ => cases hm
    | field hc => exact h entered _ t hc

theorem fresh_parts (plain : s.isPlain = true) :
    g.Fresh inside s ↔ ∀ m ∈ s.parts, g.Fresh inside (g.shape m) := by
  constructor
  · intro h m hm entered fields t hc
    exact h entered fields t (.part hm hc)
  · intro h entered fields t hc
    cases hc with
    | refl => exact avoids_nil
    | part hm hc => exact h _ hm entered fields t hc
    | hidden _ | field _ => cases plain

theorem not_stops_of_not_mem (h : name ∉ inside) : ¬ u.Stops inside name := by
  cases u <;> simp [Unfolding.Stops, h]

/-- Where no rule is met inside itself it does not matter how often rules are unfolded. -/
theorem Derives.of_fresh {v : Unfolding} (h : g.Derives u inside s w) (hf : g.Fresh inside s) :
    g.Derives v inside s w := by
  induction h with
  | nothing => exact .nothing
  | node => exact .node
  | stop stops => exact absurd stops (not_stops_of_not_mem (fresh_hidden.mp hf).1)
  | unfold _ _ ih =>
    obtain ⟨hi, hf⟩ := fresh_hidden.mp hf
    exact .unfold (not_stops_of_not_mem hi) (ih hf)
  | seqNil => exact .seqNil
  | @seqCons inside m ms _ _ _ _ ihv ihw =>
    have hf := (fresh_parts rfl).mp hf
    have tail : g.Fresh inside (.seq ms) :=
      (fresh_parts rfl).mpr fun m' hm => hf m' (List.mem_cons_of_mem _ hm)
    exact .seqCons (ihv (hf m (by simp [Shape.parts]))) (ihw tail)
  | choiceNil => exact .choiceNil
  | choice hm _ ih => exact .choice hm (ih ((fresh_parts rfl).mp hf _ hm))
  | repeated _ hne ih =>
    have hf := (fresh_parts rfl).mp hf
    exact .repeated (fun part hp => ih part hp (hf _ (by simp [Shape.parts]))) hne
  | field _ ih => exact .field (ih (fresh_field.mp hf))
  | wrapper _ ih => exact .wrapper (ih ((fresh_parts rfl).mp hf _ (by simp [Shape.parts])))

theorem NeverReenters.expands_iff (h : g.NeverReenters body) :
    g.Expands body w ↔ g.CutExpands body w :=
  have hf := neverReenters_iff_fresh.mp h
  ⟨fun hw => hw.of_fresh hf, fun hw => hw.of_fresh hf⟩

/-! ## Places that show no node from a rule inside itself -/

/-- No node of a place is shown by a hidden rule inside itself. -/
def NeverReentersAt (g : Grammar) (body : Rule) (p : Place) : Prop :=
  ∀ entered fields ref, g.Chain (g.shape body) entered fields (.node ref) →
    p.holds ⟨ref, fields⟩ = true → entered.Nodup

/-- No node of a place is shown by a hidden rule inside itself or inside one of the given rules. -/
def FreshAt (g : Grammar) (inside : List String) (s : Shape) (p : Place) : Prop :=
  ∀ entered fields ref, g.Chain s entered fields (.node ref) →
    p.holds ⟨ref, fields⟩ = true → Avoids inside entered

theorem NeverReentersAt.freshAt (h : g.NeverReentersAt body p) :
    g.FreshAt [] (g.shape body) p :=
  fun entered fields ref hc hp => ⟨h entered fields ref hc hp, by simp⟩

theorem FreshAt.unfold (h : g.FreshAt inside (.hidden name body) p) :
    g.FreshAt (name :: inside) (g.shape body) p := by
  intro entered fields ref hc hp
  exact (avoids_cons.mp (h _ fields ref (.hidden hc) hp)).2

theorem FreshAt.content {c : Rule} (h : g.FreshAt inside (.field name c) p) :
    g.FreshAt inside (g.shape c) (p.inside name) := by
  intro entered fields ref hc hp
  rw [← p.holds_inField name ⟨ref, fields⟩] at hp
  exact h entered _ ref (.field hc) hp

theorem FreshAt.part {m : Rule} (h : g.FreshAt inside s p) (hm : m ∈ s.parts) :
    g.FreshAt inside (g.shape m) p :=
  fun entered fields ref hc hp => h entered fields ref (.part hm hc) hp

/-- A hidden rule inside itself has no node at such a place. -/
theorem FreshAt.kinds_eq_nil (h : g.FreshAt inside (.hidden name body) p) (hm : name ∈ inside)
    (hw : g.Derives u (name :: inside) (g.shape body) w) : p.kinds w = [] := by
  by_contra hne
  obtain ⟨kind, hk⟩ := List.exists_mem_of_ne_nil _ hne
  obtain ⟨n, hn, hp, _⟩ := Place.mem_kinds.mp hk
  obtain ⟨entered, hc⟩ := hw.chain_of_mem hn
  exact (avoids_cons.mp (h _ n.fields n.ref (.hidden hc) hp)).1 hm

/-- **The nodes of such a place are those of an expansion in which a hidden rule inside itself
adds nothing.** -/
theorem Derives.cut_of_freshAt (h : g.Derives .free inside s w) (hf : g.FreshAt inside s p) :
    ∃ w', g.Derives .cut inside s w' ∧ p.kinds w' = p.kinds w := by
  induction h generalizing p with
  | nothing => exact ⟨[], .nothing, rfl⟩
  | node => exact ⟨_, .node, rfl⟩
  | stop stops => exact absurd stops id
  | @unfold inside name body w _ h ih =>
    by_cases hm : name ∈ inside
    · exact ⟨[], .stop hm, (hf.kinds_eq_nil hm h).symm⟩
    · obtain ⟨w', hw, he⟩ := ih hf.unfold
      exact ⟨w', .unfold hm hw, he⟩
  | seqNil => exact ⟨[], .seqNil, rfl⟩
  | @seqCons inside m ms v w _ _ ihv ihw =>
    have tail : g.FreshAt inside (.seq ms) p := by
      intro entered fields ref hc hp
      rcases hc.seq_cons with ⟨ht, _⟩ | hc
      · cases ht
      · exact hf entered fields ref hc hp
    obtain ⟨v', hv, hev⟩ := ihv (hf.part (by simp [Shape.parts]))
    obtain ⟨w', hw, hew⟩ := ihw tail
    exact ⟨v' ++ w', .seqCons hv hw, by rw [Place.kinds_append, Place.kinds_append, hev, hew]⟩
  | choiceNil => exact ⟨[], .choiceNil, rfl⟩
  | choice hm _ ih =>
    obtain ⟨w', hw, he⟩ := ih (hf.part hm)
    exact ⟨w', .choice hm hw, he⟩
  | @repeated inside atLeastOnce c parts _ hne ih =>
    have content : g.FreshAt inside (g.shape c) p := hf.part (by simp [Shape.parts])
    have each : ∀ part ∈ parts.map p.kinds, part ∈ g.words .cut inside (g.shape c) p := by
      intro part hm
      obtain ⟨w, hw, hpart⟩ := List.mem_map.mp hm
      obtain ⟨w', hw', he⟩ := ih w hw content
      exact ⟨w', hw', he.trans hpart⟩
    obtain ⟨ws, hws, hmap⟩ := exists_parts each
    refine ⟨ws.flatten, .repeated hws ?_, ?_⟩
    · intro once hnil
      rw [hnil] at hmap
      exact hne once (by simpa using hmap.symm)
    · rw [Place.kinds_flatten, Place.kinds_flatten, hmap]
  | @field inside name c w _ ih =>
    obtain ⟨w', hw, he⟩ := ih hf.content
    exact ⟨_, .field hw, by rw [Place.kinds_map_inField, Place.kinds_map_inField, he]⟩
  | wrapper _ ih =>
    obtain ⟨w', hw, he⟩ := ih (hf.part (by simp [Shape.parts]))
    exact ⟨w', .wrapper hw, he⟩

end Grammar
end GrammarArtifact
