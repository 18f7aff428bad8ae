import Mathlib.Data.List.Lex
import Mathlib.Order.Basic

/-! # Searches that find the first fault

A search goes through places that have an order and gives what is wrong at the first
place that has a fault. The faults are given as a relation between places and what is
wrong there. Searches are put together from smaller ones, and each way to do so has a
lemma: going through a list, looking at a rule before its children, and naming the
places of a part as places of the whole. -/

namespace GrammarArtifact
variable {α β ι κ ε : Type}

/-- A search gives a fault at the first place that has one, and nothing if no place has one. -/
structure Finds [LT ι] (found : Option ε) (faults : ι → ε → Prop) : Prop where
  none_sound : found = none → ∀ p e, ¬faults p e
  first : ∀ e, found = some e → ∃ p, faults p e ∧ ∀ q < p, ∀ e', ¬faults q e'

namespace Finds

theorem congr [LT ι] {found : Option ε} {faults faults' : ι → ε → Prop} (h : Finds found faults)
    (same : ∀ p e, faults' p e ↔ faults p e) : Finds found faults' := by
  obtain rfl : faults' = faults := funext fun p => funext fun e => propext (same p e)
  exact h

/-- A search of a single place. -/
theorem single [Preorder ι] (found : Option ε) (place : ι) :
    Finds found fun p e => p = place ∧ found = some e where
  none_sound := by
    rintro rfl p e ⟨_, h⟩
    cases h
  first := by
    intro e h
    refine ⟨place, ⟨rfl, h⟩, ?_⟩
    rintro q before e' ⟨rfl, _⟩
    exact lt_irrefl _ before

/-- The places of a part are places of the whole, in the same order. -/
theorem within [LT ι] [LT κ] {found : Option ε} {faults : ι → ε → Prop} (h : Finds found faults)
    (place : ι → κ) (mono : ∀ i j, place i < place j → i < j) :
    Finds found fun p e => ∃ i, p = place i ∧ faults i e where
  none_sound := by
    rintro hn p e ⟨i, _, hf⟩
    exact h.none_sound hn i e hf
  first := by
    intro e he
    obtain ⟨i, hf, least⟩ := h.first e he
    refine ⟨place i, ⟨i, rfl, hf⟩, ?_⟩
    rintro _ before e' ⟨j, rfl, hf'⟩
    exact least j (mono j i before) e' hf'

/-- What a search finds can be told in another way. -/
theorem map [LT ι] {found : Option α} {faults : ι → α → Prop} (h : Finds found faults)
    (tell : α → ε) : Finds (found.map tell) fun p e => ∃ a, e = tell a ∧ faults p a where
  none_sound := by
    rintro hn p e ⟨a, _, hf⟩
    exact h.none_sound (Option.map_eq_none_iff.mp hn) p a hf
  first := by
    intro e he
    obtain ⟨a, ha, rfl⟩ := Option.map_eq_some_iff.mp he
    obtain ⟨p, hf, least⟩ := h.first a ha
    refine ⟨p, ⟨a, rfl, hf⟩, ?_⟩
    rintro q before e' ⟨a', _, hf'⟩
    exact least q before a' hf'

/-- **A list is searched item by item**, where the places of an item come before those of the
items behind it. -/
theorem list [Preorder ι] {items : List α} {search : α → Option ε} {faults : α → ι → ε → Prop}
    (each : ∀ a ∈ items, Finds (search a) (faults a))
    (ordered : items.Pairwise fun a b => ∀ p q e e', faults a p e → faults b q e' → p < q) :
    Finds (items.findSome? search) fun p e => ∃ a ∈ items, faults a p e where
  none_sound := by
    rintro hn p e ⟨a, ha, hf⟩
    exact (each a ha).none_sound (List.findSome?_eq_none_iff.mp hn a ha) p e hf
  first := by
    intro e he
    obtain ⟨before, a, after, rfl, ha, clear⟩ := List.findSome?_eq_some_iff.mp he
    obtain ⟨_, ordered, _⟩ := List.pairwise_append.mp ordered
    have mem : a ∈ before ++ a :: after := by simp
    obtain ⟨p, hf, least⟩ := (each a mem).first e ha
    refine ⟨p, ⟨a, mem, hf⟩, ?_⟩
    -- An earlier place lies in an item before `a`, which is clear, or in `a` itself.
    rintro q hq e' ⟨b, hb, hf'⟩
    rcases List.mem_append.mp hb with h | h
    · exact (each b hb).none_sound (clear b h) q e' hf'
    · rcases List.mem_cons.mp h with rfl | h
      · exact least q hq e' hf'
      · exact lt_asymm hq ((List.pairwise_cons.mp ordered).1 b h p q e e' hf hf')

/-- The items of a list are told apart by their numbers. -/
theorem numbered {items : List α} {search : α → Option ε} {faults : α → List ℕ → ε → Prop}
    (each : ∀ a ∈ items, Finds (search a) (faults a)) :
    Finds (items.findSome? search) fun path e =>
      ∃ i rest a, path = i :: rest ∧ items[i]? = some a ∧ faults a rest e := by
  have sorted : items.zipIdx.Pairwise fun a b => a.2 < b.2 := by
    rw [← List.pairwise_map, List.zipIdx_map_snd]
    exact List.pairwise_lt_range'
  have search_eq : items.findSome? search = items.zipIdx.findSome? fun a => search a.1 := by
    conv_lhs => rw [← List.zipIdx_map_fst 0 items, List.findSome?_map]
    rfl
  have found : Finds (items.zipIdx.findSome? fun a => search a.1) fun path e =>
      ∃ a ∈ items.zipIdx, ∃ rest, path = a.2 :: rest ∧ faults a.1 rest e := by
    refine list ?_ (sorted.imp ?_)
    · intro a ha
      refine (each a.1 (List.fst_mem_of_mem_zipIdx ha)).within (List.cons a.2) ?_
      intro rest rest' before
      rcases List.cons_lt_cons_iff.mp before with h | ⟨_, h⟩
      · exact absurd h (lt_irrefl _)
      · exact h
    · rintro a b before _ _ e e' ⟨rest, rfl, _⟩ ⟨rest', rfl, _⟩
      exact List.cons_lt_cons_iff.mpr (.inl before)
  rw [search_eq]
  refine found.congr ?_
  intro path e
  constructor
  · rintro ⟨i, rest, a, rfl, ha, hf⟩
    exact ⟨(a, i), List.mem_zipIdx_iff_getElem?.mpr ha, rest, rfl, hf⟩
  · rintro ⟨⟨a, i⟩, ha, rest, rfl, hf⟩
    exact ⟨i, rest, a, rfl, List.mem_zipIdx_iff_getElem?.mp ha, hf⟩

/-- What is wrong with a whole comes before what is wrong inside it. -/
theorem root {here below : Option ε} {faults : List ℕ → ε → Prop} (h : Finds below faults) :
    Finds (here.or below) fun path e => (path = [] ∧ here = some e) ∨ faults path e where
  none_sound := by
    rintro hn p e (⟨_, he⟩ | hf)
    · rw [he] at hn
      cases hn
    · rw [Option.or_eq_none_iff] at hn
      exact h.none_sound hn.2 p e hf
  first := by
    intro e he
    rcases Option.or_eq_some_iff.mp he with he | ⟨hn, he⟩
    · exact ⟨[], .inl ⟨rfl, he⟩, fun q before => absurd before (List.not_lt_nil q)⟩
    · obtain ⟨p, hf, least⟩ := h.first e he
      refine ⟨p, .inr hf, ?_⟩
      rintro q before e' (⟨_, he'⟩ | hf')
      · cases hn.symm.trans he'
      · exact least q before e' hf'

end Finds
end GrammarArtifact
