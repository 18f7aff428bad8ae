import GrammarArtifact.Proofs.Rule.Tree

/-! # Walks into a rule

A place inside a rule is given by a path: which child to enter, at every rule on the
way. The order of the paths, number by number, is the order in which `preorder` lists
the rules, and a path also tells between which of several equal rules one has found. -/

namespace GrammarArtifact.Rule
variable {r s : Rule} {path : List Nat} {passed : List Rule}

/-- The path leads from the first rule to the last one and passes the rules between them, of which
the outermost comes first. The rule to which it leads is not passed. -/
inductive Walk : Rule → List Nat → List Rule → Rule → Prop
  | here {r : Rule} : Walk r [] [] r
  | down {r c s : Rule} {i : Nat} {path : List Nat} {passed : List Rule} :
    r.children[i]? = some c → Walk c path passed s → Walk r (i :: path) (r :: passed) s

/-- A path leads to one rule and passes the same rules every time. -/
theorem Walk.functional {passed' : List Rule} {s' : Rule} (h : r.Walk path passed s)
    (h' : r.Walk path passed' s') : passed = passed' ∧ s = s' := by
  induction h generalizing passed' with
  | here =>
    cases h' with
    | here => exact ⟨rfl, rfl⟩
  | down hc _ ih =>
    cases h' with
    | down hc' h' =>
      obtain rfl := Option.some.inj (hc.symm.trans hc')
      obtain ⟨rfl, rfl⟩ := ih h'
      exact ⟨rfl, rfl⟩

/-- **Walks lead to all rules inside a rule.** -/
theorem mem_preorder_iff_walk : s ∈ r.preorder ↔ ∃ path passed, r.Walk path passed s := by
  constructor
  · intro h
    induction r using children_induction with
    | step r ih =>
      rcases mem_preorder.mp h with rfl | ⟨c, hc, h⟩
      · exact ⟨[], [], .here⟩
      · obtain ⟨i, hi⟩ := List.mem_iff_getElem?.mp hc
        obtain ⟨path, passed, w⟩ := ih c hc h
        exact ⟨i :: path, r :: passed, .down hi w⟩
  · rintro ⟨path, passed, w⟩
    induction w with
    | here => exact self_mem_preorder _
    | down hc _ ih => exact mem_preorder_of_child (List.mem_of_getElem? hc) ih

end GrammarArtifact.Rule
