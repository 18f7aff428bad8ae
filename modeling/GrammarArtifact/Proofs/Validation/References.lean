import Mathlib
import GrammarArtifact.Proofs.Grammar.Worklist
import GrammarArtifact.Proofs.Validation.Exact
import GrammarArtifact.Rule.Build

/-! # References that lead nowhere

Five parts of a grammar hold rules. The checks look for undefined references in three of
them. Of the externals they see only the names, and the sets of reserved words they do
not see at all: what is declared there has no influence on the answer, so a reference
that leads nowhere is found neither in a set of reserved words nor inside an external. -/

namespace GrammarArtifact

inductive RulePart where
  | rules
  | extras
  | externals
  | precedences
  | reserved
  deriving DecidableEq

namespace Grammar
variable {g : Grammar} {check : PatternCheck}

def heldIn (g : Grammar) : RulePart → List Rule
  | .rules => g.ruleEntries.map Prod.snd
  | .extras => g.extraRules
  | .externals => g.externalRules
  | .precedences => (g.precedences.getD []).flatten
  | .reserved => (g.reserved.getD ∅).toList.flatMap Prod.snd

/-- A reference to a name that is not defined. -/
def Dangles (g : Grammar) (r : Rule) : Prop :=
  ∃ name, r.type = .symbol ∧ r.name = some name ∧ ¬g.Defined name

theorem ReferencesDefined.not_dangles {body r : Rule} (defined : g.ReferencesDefined body)
    (h : r ∈ body.preorder) : ¬g.Dangles r := by
  intro dangles
  obtain ⟨name, ht, hn, undefined⟩ := dangles
  exact undefined (defined r h ht name hn)

/-- An external is defined by being declared. -/
theorem not_dangles_of_external {r : Rule} (h : r ∈ g.externalRules) : ¬g.Dangles r := by
  intro dangles
  obtain ⟨name, ht, hn, undefined⟩ := dangles
  exact undefined (.inr ⟨r, h, ht, hn⟩)

/-- **Where a reference that leads nowhere can stand** in a grammar that meets the conditions. -/
theorem Sound.dangling (sound : g.Sound check) {part : RulePart} {body r : Rule}
    (held : body ∈ g.heldIn part) (h : r ∈ body.preorder) (dangles : g.Dangles r) :
    part = .reserved ∨ part = .externals ∧ ∃ c ∈ body.children, r ∈ c.preorder := by
  cases part with
  | rules =>
    obtain ⟨⟨name, _⟩, entry, rfl⟩ := List.mem_map.mp held
    have defined := sound.symbols name _ (mem_ruleEntries.mp entry)
    exact absurd dangles (defined.not_dangles h)
  | extras => exact absurd dangles ((sound.extras body held).not_dangles h)
  | precedences =>
    obtain ⟨order, ho, hb⟩ := List.mem_flatten.mp held
    exact absurd dangles ((sound.precedences order ho body hb).not_dangles h)
  | externals =>
    rcases Rule.mem_preorder.mp h with rfl | below
    · exact absurd dangles (not_dangles_of_external held)
    · exact .inr ⟨rfl, below⟩
  | reserved => exact .inl rfl

/-! ## What the checks do not see -/

/-- The grammar with other externals and other sets of reserved words. -/
def redeclare (g : Grammar) (externals : Option (List Rule))
    (reserved : Option (NameMap (List Rule))) : Grammar :=
  { g with externals, reserved }

section Redeclare
variable {externals : Option (List Rule)} {reserved : Option (NameMap (List Rule))}
  (same : ∀ name, name ∈ (g.redeclare externals reserved).externalNames ↔ name ∈ g.externalNames)
include same

theorem defines_redeclare (name : String) :
    (g.redeclare externals reserved).defines name = g.defines name := by
  have listed : (g.redeclare externals reserved).externalNames.contains name =
      g.externalNames.contains name := by
    rw [Bool.eq_iff_iff, List.contains_iff_mem, List.contains_iff_mem]
    exact same name
  unfold defines
  rw [listed]
  rfl

theorem undefinedIn?_redeclare (body : Rule) :
    (g.redeclare externals reserved).undefinedIn? body = g.undefinedIn? body := by
  unfold undefinedIn?
  simp only [defines_redeclare same]

theorem error?_redeclare : (g.redeclare externals reserved).error? check = g.error? check := by
  have undefined := funext (undefinedIn?_redeclare same)
  have symbols : (g.redeclare externals reserved).symbolError? = g.symbolError? := by
    unfold symbolError?
    rw [undefined]
    rfl
  have references : ∀ property rules, (g.redeclare externals reserved).referenceError? property
      rules = g.referenceError? property rules := by
    intro property rules
    unfold referenceError?
    rw [undefined]
  unfold error?
  simp only [symbols, references]
  rfl

omit same in
/-- The same names are reached, since references lead along the same rules. -/
theorem reachableFrom_redeclare (names : List String) :
    (g.redeclare externals reserved).reachableFrom names = g.reachableFrom names := by
  refine Std.ExtTreeSet.ext_mem ?_
  intro name
  rw [mem_reachableFrom, mem_reachableFrom]
  rfl

omit same in
theorem warnings_redeclare (start : String) :
    (g.redeclare externals reserved).warnings start = g.warnings start := by
  unfold warnings unreachableRules
  rw [reachableFrom_redeclare]
  rfl

/-- **Only the names of the externals count**, and of the reserved words nothing. -/
theorem validateWith_redeclare :
    (g.redeclare externals reserved).validateWith check = g.validateWith check := by
  have starts : (g.redeclare externals reserved).startRule = g.startRule := rfl
  unfold validateWith
  rw [error?_redeclare same, starts, funext warnings_redeclare]

end Redeclare

/-- **Which references are checked.** In a grammar that passes the checks, a reference that leads
nowhere stands in a set of reserved words or inside an external. There it is never found: the answer
of the checks is the same whatever sets of reserved words there are, and whatever the externals
hold, as long as they have the same names. -/
theorem references_checked (check : PatternCheck) (g : Grammar) :
    (∀ warnings, g.validateWith check = .ok warnings →
      ∀ part, ∀ body ∈ g.heldIn part, ∀ r ∈ body.preorder, g.Dangles r →
        part = .reserved ∨ part = .externals ∧ ∃ c ∈ body.children, r ∈ c.preorder) ∧
    ∀ externals reserved,
      (∀ name, name ∈ (g.redeclare externals reserved).externalNames ↔ name ∈ g.externalNames) →
        (g.redeclare externals reserved).validateWith check = g.validateWith check := by
  constructor
  · intro warnings valid part body held r h dangles
    have sound := error?_eq_none.mp (validateWith_eq_ok.mp valid).1
    exact sound.dangling held h dangles
  · intro externals reserved same
    exact validateWith_redeclare same

def greeting : Grammar where
  name := "greeting"
  rules := .ofList [("source_file", Rule.literal "hello")]

/-- The grammar with an external and a set of reserved words that refer to a missing rule. -/
def haunted : Grammar :=
  greeting.redeclare (some [.token (.symbol "ghost")])
    (some (.ofList [("global", [Rule.symbol "ghost"])]))

/-- The missing rule is not noticed where the grammar refers to it, and no rule refers to it. -/
theorem haunted_passes : haunted.validate = .ok [] ∧
    (∃ body ∈ haunted.heldIn .reserved, ∃ r ∈ body.preorder, haunted.Dangles r) ∧
    (∃ body ∈ haunted.heldIn .externals, ∃ r ∈ body.preorder, haunted.Dangles r) ∧
    ∀ body ∈ haunted.heldIn .rules, ∀ r ∈ body.preorder, ¬haunted.Dangles r := by
  have valid : greeting.validate = .ok [] :=
    validateWith_eq_ok.mpr ⟨by cbv, "source_file", by cbv, by cbv⟩
  have passes : haunted.validate = .ok [] := by
    have unchanged := (references_checked Pattern.complaint? greeting).2
      (some [.token (.symbol "ghost")]) (some (.ofList [("global", [Rule.symbol "ghost"])]))
      (by intro name; rfl)
    exact unchanged.trans valid
  have ghost : haunted.Dangles (.symbol "ghost") := by
    refine ⟨"ghost", rfl, rfl, ?_⟩
    rw [← defines_iff]
    cbv
    decide
  have words : haunted.heldIn .reserved = [.symbol "ghost"] := by cbv
  have tokens : haunted.heldIn .externals = [.token (.symbol "ghost")] := rfl
  refine ⟨passes, ⟨.symbol "ghost", ?_, .symbol "ghost", Rule.self_mem_preorder _, ghost⟩,
    ⟨.token (.symbol "ghost"), ?_, .symbol "ghost", by decide, ghost⟩, ?_⟩
  · rw [words]
    exact List.mem_singleton_self _
  · rw [tokens]
    exact List.mem_singleton_self _
  · intro body held r h dangles
    have only := (references_checked Pattern.complaint? haunted).1 [] passes
    rcases only .rules body held r h dangles with other | other
    · cases other
    · cases other.1

end Grammar
end GrammarArtifact
