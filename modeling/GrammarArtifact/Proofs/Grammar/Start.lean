import Mathlib
import GrammarArtifact.Proofs.Grammar.Worklist
import GrammarArtifact.Rule.Build

/-! # The rule that a parse starts from

Where no rule bears the conventional name, a parse starts from the only rule that is
unused. A rule is used by every rule whose body refers to it, and that may be the rule
itself: a rule that refers to itself is never the one to start from, even if no other
rule uses it. -/

namespace GrammarArtifact
namespace Grammar
variable {g : Grammar} {name : String} {names : List String} {e : GrammarError}

/-- A rule to which no body refers, its own included. -/
def Unused (g : Grammar) (name : String) : Prop :=
  name ∈ g.rules ∧ ∀ rule, ¬g.Refers rule name

/-- A rule to which no body refers, except perhaps its own. -/
def UnusedByOthers (g : Grammar) (name : String) : Prop :=
  name ∈ g.rules ∧ ∀ rule, g.Refers rule name → rule = name

theorem unused_iff : g.Unused name ↔ g.UnusedByOthers name ∧ ¬g.Refers name name := by
  constructor
  · intro unused
    obtain ⟨present, free⟩ := unused
    exact ⟨⟨present, fun rule refers => absurd refers (free rule)⟩, free name⟩
  · intro unused
    obtain ⟨⟨present, others⟩, self⟩ := unused
    refine ⟨present, fun rule refers => ?_⟩
    have own : rule = name := others rule refers
    exact self (own ▸ refers)

/-! ## The roots -/

theorem mem_referencedSymbols : name ∈ g.referencedSymbols ↔ ∃ rule, g.Refers rule name := by
  unfold referencedSymbols
  rw [Std.ExtTreeSet.mem_ofList, List.contains_iff_mem, List.mem_flatMap]
  constructor
  · intro h
    obtain ⟨⟨rule, body⟩, entry, refers⟩ := h
    exact ⟨rule, body, mem_ruleEntries.mp entry, Rule.mem_references.mp refers⟩
  · intro h
    obtain ⟨rule, body, hr, refers⟩ := h
    exact ⟨(rule, body), mem_ruleEntries.mpr hr, Rule.mem_references.mpr refers⟩

/-- **The roots are the unused rules.** -/
theorem mem_roots : name ∈ g.roots ↔ g.Unused name := by
  unfold roots Unused
  rw [List.mem_filter, mem_ruleNames, Bool.not_eq_true', ← Bool.not_eq_true,
    Std.ExtTreeSet.contains_iff_mem, mem_referencedSymbols, not_exists]

theorem roots_sorted (g : Grammar) : g.roots.Pairwise fun a b => utf8Bytes a < utf8Bytes b :=
  g.ruleNames_increasing.filter _

/-- The unused rules in the order of the bytes are the roots. -/
theorem roots_eq_iff : g.roots = names ↔
    names.Pairwise (fun a b => utf8Bytes a < utf8Bytes b) ∧ ∀ m, m ∈ names ↔ g.Unused m := by
  constructor
  · rintro rfl
    exact ⟨g.roots_sorted, fun m => mem_roots⟩
  · intro h
    obtain ⟨sorted, members⟩ := h
    have below : ∀ {a b}, utf8Bytes a < utf8Bytes b → a < b := utf8Bytes_lt.mp
    refine List.Pairwise.eq_of_mem_iff (g.roots_sorted.imp below) (sorted.imp below) ?_
    intro m
    rw [mem_roots, members]

theorem roots_eq_singleton : g.roots = [name] ↔ ∀ m, g.Unused m ↔ m = name := by
  rw [roots_eq_iff]
  simp [eq_comm, iff_comm]

theorem roots_eq_nil : g.roots = [] ↔ ∀ m, ¬g.Unused m := by
  rw [roots_eq_iff]
  simp

/-! ## The start -/

section Fallback
variable (filled : g.rules.isEmpty = false) (unconventional : defaultStart ∉ g.rules)
include filled unconventional

/-- Without a rule of the conventional name the roots decide. -/
theorem startRule_cases :
    (∃ n, g.roots = [n] ∧ g.startRule = .ok n) ∨
    (g.roots = [] ∧ g.startRule = .error (.noStart .everyRuleReferenced)) ∨
    (1 < g.roots.length ∧ g.startRule = .error (.noStart (.severalRoots g.roots))) := by
  have absent : g.rules.contains defaultStart = false := by
    rw [← Bool.not_eq_true, Std.ExtTreeMap.contains_iff_mem]
    exact unconventional
  unfold startRule
  rw [filled, absent]
  rcases g.roots with _ | ⟨n, _ | ⟨m, rest⟩⟩
  · exact .inr (.inl ⟨rfl, rfl⟩)
  · exact .inl ⟨n, rfl, rfl⟩
  · exact .inr (.inr ⟨by simp, rfl⟩)

theorem startRule_eq_ok : g.startRule = .ok name ↔ g.roots = [name] := by
  rcases startRule_cases filled unconventional with ⟨n, hn, hs⟩ | ⟨hn, hs⟩ | ⟨several, hs⟩
  · simp [hn, hs]
  · simp [hn, hs]
  · rw [hs]
    constructor
    · intro h
      cases h
    · intro h
      rw [h] at several
      simp at several

theorem startRule_eq_error : g.startRule = .error e ↔
    (g.roots = [] ∧ e = .noStart .everyRuleReferenced) ∨
    1 < g.roots.length ∧ e = .noStart (.severalRoots g.roots) := by
  rcases startRule_cases filled unconventional with ⟨n, hn, hs⟩ | ⟨hn, hs⟩ | ⟨several, hs⟩
  · simp [hn, hs]
  · simp [hn, hs, eq_comm]
  · have some : g.roots ≠ [] := List.ne_nil_of_length_pos (by omega)
    simp [hs, some, several, eq_comm]

/-- **The start is the only rule that is unused.** Let a grammar have rules, but none of the
conventional name. A rule is the start just if it is the only one to which no body refers, its own
included. There is no start just if there is no such rule, or there are several, and then the
message lists them in the order of the bytes. A rule that no other rule uses is such a rule just if
it does not refer to itself. -/
theorem startRule_exact :
    (∀ n, g.startRule = .ok n ↔ ∀ m, g.Unused m ↔ m = n) ∧
    (∀ e, g.startRule = .error e ↔
      ((∀ m, ¬g.Unused m) ∧ e = .noStart .everyRuleReferenced) ∨
      ∃ names, 1 < names.length ∧ names.Pairwise (fun a b => utf8Bytes a < utf8Bytes b) ∧
        (∀ m, m ∈ names ↔ g.Unused m) ∧ e = .noStart (.severalRoots names) ∧
        e.message = "cannot determine start rule: several unreferenced rules: " ++
          String.intercalate ", " names) ∧
    ∀ m, g.Unused m ↔ g.UnusedByOthers m ∧ ¬g.Refers m m := by
  refine ⟨?ok, ?error, fun m => unused_iff⟩
  case ok =>
    intro n
    rw [startRule_eq_ok filled unconventional, roots_eq_singleton]
  case error =>
    intro e
    rw [startRule_eq_error filled unconventional, roots_eq_nil]
    refine or_congr_right ?_
    constructor
    · intro h
      obtain ⟨several, rfl⟩ := h
      obtain ⟨sorted, members⟩ := roots_eq_iff.mp (Eq.refl g.roots)
      exact ⟨g.roots, several, sorted, members, rfl, rfl⟩
    · intro h
      obtain ⟨names, several, sorted, members, rfl, _⟩ := h
      obtain rfl := roots_eq_iff.mpr ⟨sorted, members⟩
      exact ⟨several, rfl⟩

end Fallback

def sumBody : Rule := .choice [.seq [.symbol "sum", .literal "+", .symbol "term"], .symbol "term"]

def sums : Grammar where
  name := "sums"
  rules := .ofList [("sum", sumBody), ("term", Rule.literal "x")]

theorem sums_rules : sums.ruleEntries = [("sum", sumBody), ("term", .literal "x")] := by cbv

theorem sums_refers {rule name : String} (h : sums.Refers rule name) :
    rule = "sum" ∧ (name = "sum" ∨ name = "term") := by
  have all : ∀ entry ∈ sums.ruleEntries, ∀ other ∈ entry.2.references,
      entry.1 = "sum" ∧ (other = "sum" ∨ other = "term") := by
    rw [sums_rules]
    decide
  obtain ⟨body, hr, refers⟩ := h
  exact all (rule, body) (mem_ruleEntries.mpr hr) name (Rule.mem_references.mpr refers)

/-- No other rule uses sums, and every other rule is used. Still a parse does not start from a sum,
since sums refer to themselves. -/
theorem sums_without_start :
    sums.startRule = .error (.noStart .everyRuleReferenced) ∧
    ∀ m, sums.UnusedByOthers m ↔ m = "sum" := by
  have names : ∀ m, m ∈ sums.rules ↔ m = "sum" ∨ m = "term" := by
    intro m
    rw [← mem_ruleNames, ← map_fst_ruleEntries, sums_rules]
    simp
  have body : sums.rule? "sum" = some sumBody := by cbv
  have refers : ∀ m, m = "sum" ∨ m = "term" → sums.Refers "sum" m := by
    intro m hm
    refine ⟨sumBody, body, Rule.mem_references.mp ?_⟩
    rcases hm with rfl | rfl <;> decide
  have filled : sums.rules.isEmpty = false := by cbv
  have unconventional : defaultStart ∉ sums.rules := by
    rw [names]
    decide
  obtain ⟨_, failed, _⟩ := startRule_exact filled unconventional
  constructor
  · refine (failed _).mpr (.inl ⟨?_, rfl⟩)
    intro m unused
    exact unused.2 "sum" (refers m ((names m).mp unused.1))
  · intro m
    constructor
    · intro unused
      exact (unused.2 "sum" (refers m ((names m).mp unused.1))).symm
    · rintro rfl
      exact ⟨(names "sum").mpr (.inl rfl), fun rule h => (sums_refers h).1⟩

end Grammar
end GrammarArtifact
