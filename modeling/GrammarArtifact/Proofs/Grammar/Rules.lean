import Mathlib.Data.String.Basic
import Mathlib.Order.Basic
import GrammarArtifact.Grammar.Basic
import GrammarArtifact.Proofs.Text.ByteOrder

/-! # The rules of a grammar

The rules can be looked up by name, listed by name, and listed with their bodies. The
lists are sorted by name, and hold a name once. -/

namespace GrammarArtifact.Grammar
variable {g : Grammar} {name : String} {body : Rule}

theorem mem_ruleEntries : (name, body) ∈ g.ruleEntries ↔ g.rule? name = some body :=
  Std.ExtTreeMap.mem_toList_iff_getElem?_eq_some

theorem mem_ruleNames : name ∈ g.ruleNames ↔ name ∈ g.rules := Std.ExtTreeMap.mem_keys

theorem map_fst_ruleEntries (g : Grammar) : g.ruleEntries.map Prod.fst = g.ruleNames :=
  Std.ExtTreeMap.map_fst_toList_eq_keys

theorem ruleEntries_sorted (g : Grammar) : g.ruleEntries.Pairwise fun a b => a.1 < b.1 :=
  Std.ExtTreeMap.ordered_keys_toList.imp compare_lt_iff_lt.mp

theorem ruleNames_sorted (g : Grammar) : g.ruleNames.Pairwise fun a b => a < b :=
  Std.ExtTreeMap.ordered_keys.imp compare_lt_iff_lt.mp

theorem ruleNames_increasing (g : Grammar) :
    g.ruleNames.Pairwise fun a b => utf8Bytes a < utf8Bytes b :=
  g.ruleNames_sorted.imp utf8Bytes_lt.mpr

theorem symbolName?_eq_some {r : Rule} {name : String} :
    r.symbolName? = some name ↔ r.type = .symbol ∧ r.name = some name := by
  simp [Rule.symbolName?, Rule.isSymbol]

/-- What holds of the bodies of all rules holds of the listed ones. -/
theorem forall_rule_iff {P : Rule → Prop} : (∀ name body, g.rule? name = some body → P body) ↔
    ∀ entry ∈ g.ruleEntries, P entry.2 := by
  constructor
  · intro h ⟨name, body⟩ hm
    exact h name body (mem_ruleEntries.mp hm)
  · intro h name body hr
    exact h (name, body) (mem_ruleEntries.mpr hr)

end GrammarArtifact.Grammar
