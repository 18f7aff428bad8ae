import Mathlib
import GrammarArtifact.Proofs.Grammar.Worklist
import GrammarArtifact.Proofs.Validation.Exact
import GrammarArtifact.Rule.Build

/-! # Rules that nothing uses

A rule is in use if references lead to it from the start rule or from an extra. The
warnings name the visible rules that are not. -/

namespace GrammarArtifact
namespace Grammar
variable {g : Grammar} {name start : String}

/-- The names from which everything in use is reached: the start rule, and those to which extras
refer. -/
def IsSource (g : Grammar) (name : String) : Prop :=
  g.startRule = .ok name ∨ ∃ extra ∈ g.extraRules, extra.RefersTo name

theorem mem_unreachableRules (hs : g.startRule = .ok start) : name ∈ g.unreachableRules start ↔
    name ∈ g.rules ∧ g.isHidden name = false ∧
      ¬∃ source, g.IsSource source ∧ Relation.ReflTransGen g.Refers source name := by
  have sources : ∀ source, source ∈ start :: g.extraRules.flatMap Rule.references ↔
      g.IsSource source := by
    intro source
    simp [IsSource, hs, Rule.mem_references, eq_comm]
  have found := @mem_reachableFrom g name (start :: g.extraRules.flatMap Rule.references)
  simp only [sources] at found
  unfold unreachableRules
  rw [List.mem_filter, mem_ruleNames, ← found, ← Std.ExtTreeSet.contains_iff_mem]
  simp only [Bool.and_eq_true, Bool.not_eq_true', Bool.not_eq_true]
  tauto

theorem unreachableRules_sorted (g : Grammar) (start : String) :
    (g.unreachableRules start).Pairwise fun a b => utf8Bytes a < utf8Bytes b :=
  g.ruleNames_increasing.filter _

theorem unreachable_warnings (g : Grammar) (start : String) :
    Warning.unreachable (g.warnings start) = g.unreachableRules start := by
  simp [Warning.unreachable, warnings]

/-- **The warnings about unreachable rules are exact.** A search along references ends on any
grammar, and what it has visited then is what its steps have found. For a grammar that passes the
checks, the warnings name each rule once, in the order of the bytes: the rules that are not hidden
and to which no chain of references leads from the start rule or from an extra. -/
theorem unreachable_exact (check : PatternCheck) (g : Grammar) :
    (WellFounded fun next w => Worklist.Steps g w next) ∧
    (∀ w, ∃ last, Relation.ReflTransGen (Worklist.Steps g) w last ∧ last.pending = [] ∧
      w.run g = last.visited) ∧
    ∀ warnings, g.validateWith check = .ok warnings →
      (Warning.unreachable warnings).Pairwise (fun a b => utf8Bytes a < utf8Bytes b) ∧
      ∀ name, name ∈ Warning.unreachable warnings ↔ name ∈ g.rules ∧ g.isHidden name = false ∧
        ¬∃ source, g.IsSource source ∧ Relation.ReflTransGen g.Refers source name := by
  refine ⟨Worklist.steps_end g, Worklist.run_ends g, ?_⟩
  intro warnings valid
  obtain ⟨_, start, hs, rfl⟩ := validateWith_eq_ok.mp valid
  rw [unreachable_warnings]
  constructor
  · exact g.unreachableRules_sorted start
  · intro name
    exact mem_unreachableRules hs

/-- A grammar with a hidden rule that uses itself, a comment that only an extra uses, an external,
and two rules that use only each other. -/
def islands : Grammar where
  name := "islands"
  externals := some [.symbol "text"]
  extras := some [.symbol "comment"]
  rules := .ofList [
    ("_lines", Rule.choice [.symbol "text", .seq [.symbol "text", .symbol "_lines"]]),
    ("comment", Rule.symbol "note"), ("left", Rule.symbol "right"), ("note", Rule.literal ";"),
    ("right", Rule.symbol "left"), ("source_file", Rule.symbol "_lines")]

theorem islands_rules : islands.ruleEntries = [
    ("_lines", Rule.choice [.symbol "text", .seq [.symbol "text", .symbol "_lines"]]),
    ("comment", .symbol "note"), ("left", .symbol "right"), ("note", .literal ";"),
    ("right", .symbol "left"), ("source_file", .symbol "_lines")] := by cbv

/-- Only the islands refer to one of them. -/
theorem islands_apart {rule name : String} (h : islands.Refers rule name)
    (island : name = "left" ∨ name = "right") : rule = "left" ∨ rule = "right" := by
  have apart : ∀ entry ∈ islands.ruleEntries, ∀ other ∈ entry.2.references,
      other = "left" ∨ other = "right" → entry.1 = "left" ∨ entry.1 = "right" := by
    rw [islands_rules]
    decide
  obtain ⟨body, hr, refers⟩ := h
  exact apart (rule, body) (mem_ruleEntries.mpr hr) name (Rule.mem_references.mpr refers) island

theorem islands_source {name : String} (h : islands.IsSource name) :
    name = "source_file" ∨ name = "comment" := by
  rcases h with hs | ⟨extra, hm, refers⟩
  · have start : islands.startRule = .ok "source_file" := by cbv
    rw [start] at hs
    cases hs
    exact .inl rfl
  · obtain rfl : extra = .symbol "comment" := List.mem_singleton.mp hm
    exact .inr (List.mem_singleton.mp (Rule.mem_references.mpr refers))

/-- The islands are reported. The note is not, since a chain leads to it from an extra. -/
theorem islands_warnings : ∃ warnings, islands.validate = .ok warnings ∧
    "left" ∈ Warning.unreachable warnings ∧ "note" ∉ Warning.unreachable warnings := by
  have valid : islands.validate = .ok (islands.warnings "source_file") :=
    validateWith_eq_ok.mpr ⟨by cbv, "source_file", by cbv, rfl⟩
  obtain ⟨_, _, reports⟩ := unreachable_exact Pattern.complaint? islands
  have reported := (reports _ valid).2
  refine ⟨_, valid, (reported "left").mpr ⟨?rule, by cbv, ?apart⟩, ?note⟩
  case rule =>
    rw [← mem_ruleNames, ← map_fst_ruleEntries, islands_rules]
    decide
  case apart =>
    rintro ⟨source, hs, chain⟩
    have island : source = "left" ∨ source = "right" := by
      clear hs
      induction chain using Relation.ReflTransGen.head_induction_on with
      | refl => exact .inl rfl
      | head h _ ih => exact islands_apart h ih
    rcases islands_source hs with rfl | rfl <;> simp at island
  case note =>
    intro hn
    have body : islands.rule? "comment" = some (.symbol "note") := by cbv
    have step : islands.Refers "comment" "note" := ⟨_, body, Rule.mem_references.mp (by decide)⟩
    have extra : islands.IsSource "comment" :=
      .inr ⟨.symbol "comment", List.mem_singleton.mpr rfl, Rule.mem_references.mp (by decide)⟩
    exact ((reported "note").mp hn).2.2 ⟨"comment", extra, .single step⟩

end Grammar
end GrammarArtifact
