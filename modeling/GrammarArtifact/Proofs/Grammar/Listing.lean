import Mathlib.Data.List.Nodup
import Mathlib.Data.List.Perm.Basic
import Mathlib.Data.List.Sort
import GrammarArtifact.Proofs.Grammar.Rules
import GrammarArtifact.Grammar.Reader

/-! # Rules in any order

A hash map enumerates its entries in an order of its own, which differs from one run to
the next. A listing of a grammar is such an enumeration: every rule, once. What goes
over a listing sees the order, but the names, once sorted, are the same for all
listings, and so are the sets and the ordered maps that are filled from them. -/

namespace GrammarArtifact

/-- Names in another order make the same set. -/
theorem ofList_perm {names names' : List String} (h : names.Perm names') :
    (Std.ExtTreeSet.ofList names : NameSet) = .ofList names' := by
  refine Std.ExtTreeSet.ext_mem ?_
  intro name
  rw [Std.ExtTreeSet.mem_ofList, Std.ExtTreeSet.mem_ofList, h.contains_eq]

/-- A map made of entries with distinct names holds these entries. -/
theorem getElem?_ofList_eq_some {α : Type} {entries : List (String × α)} {name : String} {a : α}
    (distinct : (entries.map Prod.fst).Nodup) :
    (Std.ExtTreeMap.ofList entries : NameMap α)[name]? = some a ↔ (name, a) ∈ entries := by
  have apart : entries.Pairwise fun e e' => ¬ compare e.1 e'.1 = .eq := by
    rw [List.Nodup, List.pairwise_map] at distinct
    refine distinct.imp ?_
    intro e e' ne he
    exact ne (Std.LawfulEqCmp.compare_eq_iff_eq.mp he)
  have holds : ∀ b, (name, b) ∈ entries →
      (Std.ExtTreeMap.ofList entries : NameMap α)[name]? = some b :=
    fun b hb => Std.ExtTreeMap.getElem?_ofList_of_mem (k := name) (by simp) apart hb
  constructor
  · intro h
    by_cases hn : name ∈ entries.map Prod.fst
    · obtain ⟨⟨_, b⟩, hb, rfl⟩ := List.mem_map.mp hn
      obtain rfl := Option.some.inj (h.symm.trans (holds b hb))
      exact hb
    · rw [Std.ExtTreeMap.getElem?_ofList_of_contains_eq_false (by simpa using hn)] at h
      cases h
  · exact holds a

/-- Every rule of a grammar with its body, once, in any order. -/
structure Listing (g : Grammar) where
  entries : List (String × Rule)
  distinct : (entries.map Prod.fst).Nodup
  complete : ∀ name body, (name, body) ∈ entries ↔ g.rule? name = some body

namespace Listing
variable {g : Grammar} (L : Listing g)

def names : List String := (L.entries.map Prod.fst).mergeSort

/-- The rules in the order of their sorted names, each looked up by its name. -/
def sorted : List (String × Rule) :=
  L.names.filterMap fun name => (g.rule? name).map fun body => (name, body)

/-- A listing has the rules of the grammar in another order. -/
theorem perm : L.entries.Perm g.ruleEntries := by
  have once : g.ruleEntries.Nodup := by
    refine List.Pairwise.imp ?_ g.ruleEntries_sorted
    intro a b less he
    rw [he] at less
    exact lt_irrefl b.1 less
  refine (List.perm_ext_iff_of_nodup (List.Nodup.of_map _ L.distinct) once).mpr ?_
  rintro ⟨name, body⟩
  rw [L.complete, Grammar.mem_ruleEntries]

/-- **All listings have the same sorted names.** -/
theorem names_eq : L.names = g.ruleNames := by
  have sorted : L.names.Pairwise fun a b => a ≤ b := by
    have h := @List.pairwise_mergeSort String (fun a b => decide (a ≤ b))
      (by simpa using fun a b c => le_trans) (by simpa using le_total) (L.entries.map Prod.fst)
    simpa [names] using h
  have same : L.names.Perm g.ruleNames := by
    rw [← g.map_fst_ruleEntries]
    exact (List.mergeSort_perm _ _).trans (L.perm.map Prod.fst)
  exact List.Perm.eq_of_pairwise (fun _ _ _ _ => le_antisymm) sorted
    (g.ruleNames_sorted.imp le_of_lt) same

/-- **All listings have the same rules in the order of the names.** -/
theorem sorted_eq : L.sorted = g.ruleEntries := by
  unfold sorted
  rw [names_eq, ← g.map_fst_ruleEntries, List.filterMap_map]
  have found : ∀ entry ∈ g.ruleEntries,
      ((fun name => (g.rule? name).map fun body => (name, body)) ∘ Prod.fst) entry =
        some entry := by
    rintro ⟨name, body⟩ he
    simp [Grammar.mem_ruleEntries.mp he]
  rw [List.filterMap_congr found, List.filterMap_some]

/-- A map that is filled along a listing is the same for all listings. -/
theorem ofList_map {α : Type} (f : String → Rule → α) :
    (Std.ExtTreeMap.ofList (L.entries.map fun entry => (entry.1, f entry.1 entry.2)) : NameMap α) =
      g.rules.map f := by
  have distinct :
      ((L.entries.map fun entry => (entry.1, f entry.1 entry.2)).map Prod.fst).Nodup := by
    rw [List.map_map]
    exact L.distinct
  refine Std.ExtTreeMap.ext_getElem? ?_
  intro name
  refine Option.ext ?_
  intro a
  rw [getElem?_ofList_eq_some distinct, Std.ExtTreeMap.getElem?_map, Option.map_eq_some_iff]
  constructor
  · intro ha
    obtain ⟨⟨_, body⟩, he, hf⟩ := List.mem_map.mp ha
    cases hf
    exact ⟨body, (L.complete _ _).mp he, rfl⟩
  · rintro ⟨body, hr, rfl⟩
    exact List.mem_map.mpr ⟨(name, body), (L.complete name body).mpr hr, rfl⟩

end Listing

/-! ## The rules of a document -/

namespace Document
variable {d d' : Document}

/-- The entries of a document are a listing of its rules, if no name stands twice. -/
def listing (d : Document) (distinct : (d.entries.map Prod.fst).Nodup) : Listing d.grammar where
  entries := d.entries
  distinct := distinct
  complete _ _ := (getElem?_ofList_eq_some distinct).symm

/-- **The order of the rules in a document leaves no trace in its grammar.** -/
theorem grammar_eq (distinct : (d.entries.map Prod.fst).Nodup)
    (reordered : d'.entries.Perm d.entries) (same : d'.frame = d.frame) :
    d'.grammar = d.grammar := by
  have distinct' : (d'.entries.map Prod.fst).Nodup :=
    (reordered.map Prod.fst).nodup_iff.mpr distinct
  have rules : (Std.ExtTreeMap.ofList d'.entries : NameMap Rule) = .ofList d.entries := by
    refine Std.ExtTreeMap.ext_getElem? fun name => Option.ext fun body => ?_
    rw [getElem?_ofList_eq_some distinct', getElem?_ofList_eq_some distinct, reordered.mem_iff]
  unfold grammar
  rw [rules, same]

end Document
end GrammarArtifact
