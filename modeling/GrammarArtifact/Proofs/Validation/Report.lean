import Mathlib
import GrammarArtifact.Proofs.Rule.Tree
import GrammarArtifact.Proofs.Validation.Reachable

/-! # The order of the warnings, and levels of precedence

Warnings come check by check, and those of one check in the order of the rules. The
last check looks for rules that set several levels of precedence. It collects the
levels of all precedences in a body, at any depth and in tokens too, and a precedence
that is given by a name has none. -/

namespace GrammarArtifact

/-- The place of a warning's check among the checks. -/
def Warning.group : Warning → ℕ
  | .unreachableRule _ => 0
  | .leftRecursion _ => 1
  | .mixedPrecedence _ _ => 2

/-- One warning comes before another one: it is of an earlier check, or of the same one and about
a rule whose name comes first. -/
def Warning.Before (a b : Warning) : Prop :=
  a.group < b.group ∨ a.group = b.group ∧ utf8Bytes a.rule < utf8Bytes b.rule

namespace Rule
variable {r body : Rule} {level : Int} {levels : List Int}

/-- A body sets a level of precedence, by itself or by a rule inside of it. -/
inductive SetsLevel : Rule → Int → Prop
  | here {r : Rule} {level : Int} : r.type ∈ [.prec, .precLeft, .precRight, .precDynamic] →
    r.value = some (.integer level) → SetsLevel r level
  | inside {r c : Rule} {level : Int} : c ∈ r.children → SetsLevel c level → SetsLevel r level

theorem precedence?_eq_some : r.precedence? = some level ↔
    r.type ∈ [.prec, .precLeft, .precRight, .precDynamic] ∧ r.value = some (.integer level) := by
  have own : r.level? = some level ↔ r.value = some (.integer level) := by
    unfold level?
    split <;> simp_all
  unfold precedence?
  rw [← own]
  cases r.type <;> simp [RuleType.isPrecedence]

/-- The levels are those of the rules that a body holds. -/
theorem setsLevel_iff :
    body.SetsLevel level ↔ ∃ r ∈ body.preorder, r.precedence? = some level := by
  constructor
  · intro h
    induction h with
    | here precedence value =>
      exact ⟨_, self_mem_preorder _, precedence?_eq_some.mpr ⟨precedence, value⟩⟩
    | inside hc _ ih =>
      obtain ⟨r, hr, own⟩ := ih
      exact ⟨r, mem_preorder_of_child hc hr, own⟩
  · intro h
    induction body using children_induction with
    | step body ih =>
      obtain ⟨r, hr, own⟩ := h
      rcases mem_preorder.mp hr with rfl | ⟨c, hc, hr⟩
      · obtain ⟨precedence, value⟩ := precedence?_eq_some.mp own
        exact .here precedence value
      · exact .inside hc (ih c hc ⟨r, hr, own⟩)

theorem mem_precedenceLevels : level ∈ body.precedenceLevels ↔ body.SetsLevel level := by
  rw [precedenceLevels, Std.ExtTreeSet.mem_toList, Std.ExtTreeSet.mem_ofList, List.contains_iff_mem,
    List.mem_filterMap, setsLevel_iff]

theorem precedenceLevels_sorted (body : Rule) : body.precedenceLevels.Pairwise (· < ·) :=
  Std.ExtTreeSet.ordered_toList.imp Int.compare_eq_lt.mp

/-- **The levels of a body are known by their order and their members.** -/
theorem eq_precedenceLevels_iff : levels = body.precedenceLevels ↔
    levels.Pairwise (· < ·) ∧ ∀ level, level ∈ levels ↔ body.SetsLevel level := by
  constructor
  · intro h
    subst h
    exact ⟨body.precedenceLevels_sorted, fun _ => mem_precedenceLevels⟩
  · intro h
    obtain ⟨sorted, members⟩ := h
    refine List.Pairwise.eq_of_mem_iff sorted body.precedenceLevels_sorted ?_
    intro level
    rw [members, mem_precedenceLevels]

/-- A body has several levels just if two that it sets are different. -/
theorem one_lt_length_precedenceLevels : 1 < body.precedenceLevels.length ↔
    ∃ a b, a ≠ b ∧ body.SetsLevel a ∧ body.SetsLevel b := by
  have distinct : body.precedenceLevels.Nodup := body.precedenceLevels_sorted.imp ne_of_lt
  rw [← List.toFinset_card_of_nodup distinct, Finset.one_lt_card]
  simp only [List.mem_toFinset, mem_precedenceLevels]
  tauto

end Rule

namespace Grammar
variable {check : PatternCheck} {g : Grammar} {rule start : String} {levels : List Int}
  {warnings : List Warning}

/-! ## The order of the warnings -/

/-- Warnings of later checks follow. -/
theorem before_append {ws vs : List Warning} (hw : ws.Pairwise Warning.Before)
    (hv : vs.Pairwise Warning.Before) (later : ∀ w ∈ ws, ∀ v ∈ vs, w.group < v.group) :
    (ws ++ vs).Pairwise Warning.Before :=
  List.pairwise_append.mpr ⟨hw, hv, fun w mw v mv => .inl (later w mw v mv)⟩

theorem leftRecursiveRules_sorted (g : Grammar) :
    g.leftRecursiveRules.Pairwise fun a b => utf8Bytes a < utf8Bytes b :=
  List.pairwise_map.mpr ((g.ruleEntries_sorted.filter _).imp utf8Bytes_lt.mpr)

theorem mixedPrecedences_sorted (g : Grammar) :
    g.mixedPrecedences.Pairwise fun a b => utf8Bytes a.1 < utf8Bytes b.1 := by
  unfold mixedPrecedences
  refine List.Pairwise.filter _ (List.pairwise_map.mpr ?_)
  exact g.ruleEntries_sorted.imp utf8Bytes_lt.mpr

/-- **Warnings come check by check**, and those of a check in the order of the rules. -/
theorem warnings_sorted (g : Grammar) (start : String) :
    (g.warnings start).Pairwise Warning.Before := by
  unfold warnings
  refine before_append (before_append ?_ ?_ ?_) ?_ ?_
  · exact (g.unreachableRules_sorted start).map _ fun _ _ less => .inr ⟨rfl, less⟩
  · exact g.leftRecursiveRules_sorted.map _ fun _ _ less => .inr ⟨rfl, less⟩
  · simp [Warning.group]
  · exact g.mixedPrecedences_sorted.map _ fun _ _ less => .inr ⟨rfl, less⟩
  · simp only [List.mem_append, List.mem_map]
    rintro w (⟨_, _, rfl⟩ | ⟨_, _, rfl⟩) v ⟨_, _, rfl⟩ <;> simp [Warning.group]

/-! ## Several levels of precedence -/

theorem mem_mixedPrecedences : (rule, levels) ∈ g.mixedPrecedences ↔
    ∃ body, g.rule? rule = some body ∧ levels = body.precedenceLevels ∧ 1 < levels.length := by
  unfold mixedPrecedences
  rw [List.mem_filter, List.mem_map]
  constructor
  · intro h
    obtain ⟨⟨⟨_, body⟩, entry, same⟩, several⟩ := h
    cases same
    exact ⟨body, mem_ruleEntries.mp entry, rfl, by simpa using several⟩
  · intro h
    obtain ⟨body, hr, rfl, several⟩ := h
    exact ⟨⟨(rule, body), mem_ruleEntries.mpr hr, rfl⟩, by simpa using several⟩

theorem mixedPrecedence_mem_warnings :
    .mixedPrecedence rule levels ∈ g.warnings start ↔ (rule, levels) ∈ g.mixedPrecedences := by
  simp [warnings]

/-- **What the warnings report, and in which order.** Warnings come check by check, first those about
rules that nothing uses, then those about left recursion, then those about precedences, and in each
check the names of the rules increase byte by byte. The last check reports a rule with a list of
levels just if its body sets at least two, and the list has those that it sets, ascending. -/
theorem warnings_reported (valid : g.validateWith check = .ok warnings) :
    warnings.Pairwise Warning.Before ∧
    ∀ rule levels, .mixedPrecedence rule levels ∈ warnings ↔ ∃ body, g.rule? rule = some body ∧
      (∃ a b, a ≠ b ∧ body.SetsLevel a ∧ body.SetsLevel b) ∧
      levels.Pairwise (· < ·) ∧ ∀ level, level ∈ levels ↔ body.SetsLevel level := by
  obtain ⟨_, start, _, rfl⟩ := validateWith_eq_ok.mp valid
  refine ⟨g.warnings_sorted start, ?_⟩
  intro rule levels
  rw [mixedPrecedence_mem_warnings, mem_mixedPrecedences]
  refine exists_congr fun body => and_congr_right fun _ => ?_
  rw [← Rule.eq_precedenceLevels_iff, and_comm]
  refine and_congr_left fun same => ?_
  rw [same]
  exact Rule.one_lt_length_precedenceLevels

/-- A sum that sets levels in one another and in a token. The level of its last branch is a name. -/
def rankedSum : Rule :=
  .choice [
    .precLeft 1 (.seq [.symbol "sum", .literal "+", .precLeft 1 (.symbol "sum")]),
    .token (.prec (-2) (.literal "-")),
    { type := .precRight, value := some (.string "call"), content := some (.pattern "[0-9]+") }]

/-- A grammar with the sum, and a start rule that sets one level. -/
def ranks : Grammar where
  name := "ranks"
  rules := .ofList [("source_file", Rule.prec 1 (.symbol "sum")), ("sum", rankedSum)]

/-- The sum is reported with both of its levels, the negative one first, and the start rule is not
reported. -/
theorem ranks_reported : ∃ warnings, ranks.validate = .ok warnings ∧
    warnings.Pairwise Warning.Before ∧ .mixedPrecedence "sum" [-2, 1] ∈ warnings ∧
    ∀ levels, .mixedPrecedence "source_file" levels ∉ warnings := by
  have valid : ranks.validate = .ok (ranks.warnings "source_file") :=
    validateWith_eq_ok.mpr ⟨by cbv, "source_file", by cbv, rfl⟩
  obtain ⟨ordered, reported⟩ := warnings_reported valid
  have sum : ∀ level, level ∈ [-2, 1] ↔ rankedSum.SetsLevel level := by
    have levels : rankedSum.precedenceLevels = [-2, 1] := by cbv
    intro level
    rw [← levels, Rule.mem_precedenceLevels]
  refine ⟨_, valid, ordered, (reported "sum" _).mpr ⟨rankedSum, by cbv, ?several, ?sorted, sum⟩, ?_⟩
  case several => exact ⟨-2, 1, by decide, (sum _).mp (by decide), (sum _).mp (by decide)⟩
  case sorted => decide
  intro levels listed
  obtain ⟨body, hr, ⟨a, b, distinct, ha, hb⟩, _⟩ := (reported _ _).mp listed
  have start : ranks.rule? "source_file" = some (.prec 1 (.symbol "sum")) := by cbv
  obtain rfl := Option.some.inj (start.symm.trans hr)
  have single : (Rule.prec 1 (.symbol "sum")).precedenceLevels = [1] := by cbv
  rw [← Rule.mem_precedenceLevels, single, List.mem_singleton] at ha hb
  exact distinct (ha.trans hb.symm)

end Grammar
end GrammarArtifact
