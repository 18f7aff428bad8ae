import GrammarArtifact.Grammar.Basic

/-! # Searching along references

A search goes from name to name, along the references in the bodies of rules. It keeps a list of
the names that it has still to look at, takes the front one and, if it has not looked at it before,
puts what its rule refers to in front. Every step looks at another rule or drops a name from the
list, so a search ends on any grammar. -/

namespace GrammarArtifact

def Rule.references (r : Rule) : List String := r.preorder.filterMap symbolName?

/-- The names that the body of a rule refers to; none if there is no such rule. -/
def Grammar.referencesOf (g : Grammar) (name : String) : List String :=
  (g.rule? name).elim [] Rule.references

/-- A search: the names at which it has looked, and those that are left, the next one first. A name
can be left several times, and need not be that of a rule. -/
structure Worklist where
  visited : NameSet
  pending : List String

namespace Worklist
variable {g : Grammar} {w next : Worklist} {name : String}

/-- Looks at the next name, if one is left. Of the references that are new the last comes next. -/
def step? (g : Grammar) (w : Worklist) : Option Worklist :=
  match w.pending with
  | [] => none
  | name :: rest =>
    if w.visited.contains name then some { w with pending := rest }
    else some ⟨w.visited.insert name, (g.referencesOf name).reverse ++ rest⟩

def unvisited (g : Grammar) (visited : NameSet) : List String :=
  g.ruleNames.filter fun name => !visited.contains name

theorem unvisited_insert (g : Grammar) (name : String) (visited : NameSet) :
    unvisited g (visited.insert name) = (unvisited g visited).filter fun n => name ≠ n := by
  unfold unvisited
  rw [List.filter_filter]
  refine List.filter_congr ?_
  intro n _
  rw [Std.ExtTreeSet.contains_insert]
  by_cases h : name = n <;> simp [h]

theorem referencesOf_eq_nil (absent : name ∉ g.ruleNames) : g.referencesOf name = [] := by
  have none : g.rules[name]? = none :=
    Std.ExtTreeMap.getElem?_eq_none fun h => absent (Std.ExtTreeMap.mem_keys.mpr h)
  rw [Grammar.referencesOf, Grammar.rule?, none, Option.elim_none]

/-- How much is left of a search: rules, and names. -/
def size (g : Grammar) (w : Worklist) : Nat × Nat :=
  ((unvisited g w.visited).length, w.pending.length)

/-- A step leaves fewer rules, or as many rules and fewer names. -/
theorem size_step? (h : w.step? g = some next) :
    Prod.Lex (· < ·) (· < ·) (next.size g) (w.size g) := by
  obtain ⟨visited, pending⟩ := w
  cases pending with
  | nil => cases h
  | cons name rest =>
    simp only [step?] at h
    split at h
    next =>
      cases h
      exact .right _ (by simp)
    next new =>
      cases h
      unfold size
      dsimp only
      rw [unvisited_insert]
      by_cases rule : name ∈ g.ruleNames
      · have left : name ∈ unvisited g visited := List.mem_filter.mpr ⟨rule, by simp [new]⟩
        exact .left _ _ (List.length_filter_lt_length_iff_exists.mpr ⟨name, left, by simp⟩)
      -- The new references may be many, but a name that is no rule has none.
      · have same : (unvisited g visited).filter (fun n => name ≠ n) = unvisited g visited := by
          refine List.filter_eq_self.mpr ?_
          intro n hn
          have other : n ∈ g.ruleNames := (List.mem_filter.mp hn).1
          exact decide_eq_true fun he => rule (he ▸ other)
        rw [same, referencesOf_eq_nil rule]
        exact .right _ (by simp)

/-- The names at which a search has looked when none is left. -/
def run (g : Grammar) (w : Worklist) : NameSet :=
  match _h : w.step? g with
  | none => w.visited
  | some next => run g next
termination_by w.size g
decreasing_by exact size_step? _h

end Worklist

namespace Grammar

/-- The names to which references lead from the given ones, these included. -/
def reachableFrom (g : Grammar) (names : List String) : NameSet :=
  Worklist.run g ⟨∅, names.reverse⟩

end Grammar
end GrammarArtifact
