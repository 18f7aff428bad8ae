import Mathlib.Logic.Relation
import Mathlib.Order.WellFounded
import Mathlib.Tactic.Tauto
import GrammarArtifact.Grammar.Worklist
import GrammarArtifact.Proofs.Grammar.Rules

/-! # What a search finds

A search along references ends on any grammar: `steps_end` says that no step can be
followed by another one for ever, and `run_ends` that the steps from any search come
to one that has nothing left. What holds along the way is `Worklist.Inv`: the names
that are visited or left are reached, the sources are among them, and so is all that
a visited name refers to. At the end nothing is left, and the visited names are
exactly the reached ones. -/

namespace GrammarArtifact

/-- A body holds a reference to a name, at any depth. -/
def Rule.RefersTo (body : Rule) (name : String) : Prop :=
  ∃ r ∈ body.preorder, r.type = .symbol ∧ r.name = some name

def Grammar.Refers (g : Grammar) (rule name : String) : Prop :=
  ∃ body, g.rule? rule = some body ∧ body.RefersTo name

theorem Rule.mem_references {body : Rule} {name : String} :
    name ∈ body.references ↔ body.RefersTo name := by
  simp [Rule.references, Rule.RefersTo, Grammar.symbolName?_eq_some]

theorem Grammar.mem_referencesOf {g : Grammar} {rule name : String} :
    name ∈ g.referencesOf rule ↔ g.Refers rule name := by
  unfold Grammar.referencesOf Grammar.Refers
  cases g.rule? rule <;> simp [Rule.mem_references]

namespace Worklist
variable {g : Grammar} {sources : List String} {w next : Worklist} {name : String}

def Steps (g : Grammar) (w next : Worklist) : Prop := w.step? g = some next

/-! ## A search ends -/

/-- **No search goes on for ever.** -/
theorem steps_end (g : Grammar) : WellFounded fun next w => Steps g w next :=
  Subrelation.wf size_step? (InvImage.wf (size g) (wellFounded_lt.prod_lex wellFounded_lt))

theorem run_eq (g : Grammar) (w : Worklist) :
    w.run g = (w.step? g).elim w.visited (run g) := by
  rw [run]
  split
  next h => rw [h, Option.elim_none]
  next h => rw [h, Option.elim_some]

/-- A search has no step just if nothing is left. -/
theorem step?_eq_none : w.step? g = none ↔ w.pending = [] := by
  unfold step?
  cases w.pending with
  | nil => simp
  | cons name rest => by_cases h : w.visited.contains name = true <;> simp [h]

/-- **The steps from a search lead to its end**, where `run` stops. -/
theorem run_ends (g : Grammar) (w : Worklist) : ∃ last,
    Relation.ReflTransGen (Steps g) w last ∧ last.pending = [] ∧ w.run g = last.visited := by
  induction w using (steps_end g).induction with
  | _ w ih =>
    cases h : w.step? g with
    | none =>
      have stops : w.run g = w.visited := by rw [run_eq, h, Option.elim_none]
      exact ⟨w, .refl, step?_eq_none.mp h, stops⟩
    | some next =>
      obtain ⟨last, steps, ended, hrun⟩ := ih next h
      have goes : w.run g = next.run g := by rw [run_eq, h, Option.elim_some]
      exact ⟨last, .head h steps, ended, goes.trans hrun⟩

/-! ## What it has found at the end -/

def Met (w : Worklist) (name : String) : Prop := name ∈ w.visited ∨ name ∈ w.pending

/-- What holds of a search at any time. -/
structure Inv (g : Grammar) (sources : List String) (w : Worklist) : Prop where
  met : ∀ source ∈ sources, w.Met source
  closed : ∀ name ∈ w.visited, ∀ other, g.Refers name other → w.Met other
  reached : ∀ name, w.Met name → ∃ source ∈ sources, Relation.ReflTransGen g.Refers source name

theorem Inv.start (g : Grammar) (sources : List String) : Inv g sources ⟨∅, sources.reverse⟩ := by
  constructor
  case met => intro source hs; exact .inr (List.mem_reverse.mpr hs)
  case closed => intro name hn; simp at hn
  case reached =>
    intro name hm
    have listed : name ∈ sources := by simpa [Met] using hm
    exact ⟨name, listed, .refl⟩

/-- A step that drops a visited name loses no name that was met. -/
theorem met_drop {visited : NameSet} {rest : List String} (old : name ∈ visited) (other : String) :
    Met ⟨visited, rest⟩ other ↔ Met ⟨visited, name :: rest⟩ other := by
  by_cases h : other = name
  · subst h; simp [Met, old]
  · simp [Met, h]

/-- A step that visits a name meets what the name refers to. -/
theorem met_visit {visited : NameSet} {rest : List String} (other : String) :
    Met ⟨visited.insert name, (g.referencesOf name).reverse ++ rest⟩ other ↔
      Met ⟨visited, name :: rest⟩ other ∨ g.Refers name other := by
  by_cases h : other = name
  · subst h; simp [Met]
  · simp [Met, h, Ne.symm h, Grammar.mem_referencesOf]
    tauto

/-- **A step keeps the invariant.** -/
theorem Inv.step (inv : Inv g sources w) (h : Steps g w next) : Inv g sources next := by
  obtain ⟨visited, pending⟩ := w
  unfold Steps step? at h
  cases pending with
  | nil => cases h
  | cons name rest =>
    dsimp only at h
    split at h
    next old =>
      cases h
      have same := @met_drop name visited rest (Std.ExtTreeSet.contains_iff_mem.mp old)
      constructor
      case met => intro source hs; exact (same source).mpr (inv.met source hs)
      case closed => intro n hn other hr; exact (same other).mpr (inv.closed n hn other hr)
      case reached => intro n hn; exact inv.reached n ((same n).mp hn)
    next new =>
      cases h
      have more := @met_visit g name visited rest
      constructor
      case met => intro source hs; exact (more source).mpr (.inl (inv.met source hs))
      case closed =>
        intro n hn other hr
        rcases Std.ExtTreeSet.mem_insert.mp hn with he | hn
        · obtain rfl := Std.LawfulEqCmp.eq_of_compare he
          exact (more other).mpr (.inr hr)
        · exact (more other).mpr (.inl (inv.closed n hn other hr))
      case reached =>
        intro n hn
        rcases (more n).mp hn with old | hr
        · exact inv.reached n old
        · obtain ⟨source, hs, chain⟩ := inv.reached name (.inr List.mem_cons_self)
          exact ⟨source, hs, chain.tail hr⟩

theorem Inv.steps (inv : Inv g sources w) {last : Worklist}
    (h : Relation.ReflTransGen (Steps g) w last) : Inv g sources last := by
  induction h with
  | refl => exact inv
  | tail _ h ih => exact ih.step h

/-- With nothing left, the visited names are those that are reached. -/
theorem Inv.mem_visited (inv : Inv g sources w) (ended : w.pending = []) :
    name ∈ w.visited ↔ ∃ source ∈ sources, Relation.ReflTransGen g.Refers source name := by
  have met : ∀ n, w.Met n ↔ n ∈ w.visited := by simp [Met, ended]
  constructor
  · intro hn
    exact inv.reached name (.inl hn)
  · rintro ⟨source, hs, chain⟩
    induction chain with
    | refl => exact (met source).mp (inv.met source hs)
    | tail _ hr ih => exact (met _).mp (inv.closed _ ih _ hr)

end Worklist

namespace Grammar
variable {g : Grammar} {name : String}

/-- **References lead to the names that a search finds.** -/
theorem mem_reachableFrom {sources : List String} : name ∈ g.reachableFrom sources ↔
    ∃ source ∈ sources, Relation.ReflTransGen g.Refers source name := by
  obtain ⟨last, steps, ended, hrun⟩ := Worklist.run_ends g ⟨∅, sources.reverse⟩
  rw [reachableFrom, hrun]
  exact ((Worklist.Inv.start g sources).steps steps).mem_visited ended

end Grammar
end GrammarArtifact
