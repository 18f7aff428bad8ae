import Mathlib.Data.List.Lex
import Mathlib.Data.Prod.Lex
import Mathlib.Data.String.Basic
import GrammarArtifact.Proofs.Rule.Walk
import GrammarArtifact.Validation.Check

/-! # What can be wrong with a grammar

The documented conditions on a grammar are `Grammar.Sound`. A violation of one of them
is a fault, which has a place and an error. The places are ordered by the check that
they belong to, then by the name of the rule and then by the path in it; so the first
fault is the one that the documented order of the checks puts first. How the checks
are carried out is not mentioned here. -/

namespace GrammarArtifact

/-! ## Places -/

inductive Check where
  | start
  | symbols
  | property (p : GrammarProperty)
  | terminals
  | extraTerminals
  deriving DecidableEq

namespace Check

/-- The checks in the order in which they are made. -/
def all : List Check :=
  [.start, .symbols, .property .conflicts, .property .inlined, .property .supertypes,
    .property .word, .property .extras, .property .precedences, .terminals, .extraTerminals]

theorem mem_all (c : Check) : c ∈ all := by
  rcases c with _ | _ | p | _ | _
  case property => cases p <;> decide
  all_goals decide

theorem idxOf_injective : Function.Injective fun c : Check => all.idxOf c :=
  fun a _ h => (List.idxOf_inj (mem_all a)).mp h

instance : LinearOrder Check := LinearOrder.lift' (fun c => all.idxOf c) idxOf_injective

theorem all_sorted : all.Pairwise (· < ·) := by decide

end Check

/-- A place in a grammar: for a check that goes through the rules, the name of a rule and a path in
its body; for a check that goes through a list, no name and a path that begins with the number of
an item. -/
structure Position where
  check : Check
  name : String
  path : List ℕ
  deriving DecidableEq

namespace Position
variable {c : Check} {name name' : String} {path path' : List ℕ} {p q : Position}

instance : LinearOrder Position :=
  LinearOrder.lift' (fun p => toLex (p.check, toLex (p.name, p.path))) <| by
    rintro ⟨c, n, p⟩ ⟨c', n', p'⟩ h
    simpa using h

theorem lt_iff : p < q ↔ p.check < q.check ∨
    p.check = q.check ∧ (p.name < q.name ∨ p.name = q.name ∧ p.path < q.path) := by
  have lex : p < q ↔ toLex (p.check, toLex (p.name, p.path)) <
    toLex (q.check, toLex (q.name, q.path)) := Iff.rfl
  rw [lex, Prod.Lex.toLex_lt_toLex, Prod.Lex.toLex_lt_toLex]

theorem mk_lt_mk : mk c name path < mk c name' path' ↔
    name < name' ∨ name = name' ∧ path < path' := by
  simp [lt_iff]

/-- Places under one name are in the order of their paths. -/
theorem path_lt_of_lt (h : mk c name path < mk c name path') : path < path' := by
  rcases mk_lt_mk.mp h with h | ⟨_, h⟩
  · exact absurd h (lt_irrefl name)
  · exact h

end Position

/-! ## Conditions -/

namespace Rule

/-- A literal or a pattern in a body, not inside another literal or pattern; the rules around it
are passed. -/
def Surfaces (body : Rule) (path : List ℕ) (passed : List Rule) (r : Rule) : Prop :=
  body.Walk path passed r ∧ ∀ outer ∈ passed, outer.type ≠ .string ∧ outer.type ≠ .pattern

/-- All patterns of a body can be used. -/
def PatternsUsable (check : PatternCheck) (body : Rule) : Prop :=
  ∀ path passed r, body.Surfaces path passed r → r.type = .pattern →
    check (r.text?.getD "") r.ignoresCase = none

/-- All literals of a body that are not in a token have a text that is not empty. -/
def LiteralsFilled (body : Rule) : Prop :=
  ∀ path passed r, body.Surfaces path passed r → r.type = .string →
    (∀ outer ∈ passed, outer.type ≠ .token ∧ outer.type ≠ .immediateToken) →
    ∃ text, r.text? = some text ∧ text ≠ ""

end Rule

namespace Grammar

/-- A name is that of a rule, or of an external that is a reference. -/
def Defined (g : Grammar) (name : String) : Prop :=
  name ∈ g.rules ∨ ∃ r ∈ g.externalRules, r.type = .symbol ∧ r.name = some name

/-- All references in a body are to names that are defined. -/
def ReferencesDefined (g : Grammar) (body : Rule) : Prop :=
  ∀ r ∈ body.preorder, r.type = .symbol → ∀ name, r.name = some name → g.Defined name

/-- **The documented conditions on a grammar.** -/
structure Sound (check : PatternCheck) (g : Grammar) : Prop where
  start : ∃ start, g.startRule = .ok start
  symbols : ∀ name body, g.rule? name = some body → g.ReferencesDefined body
  conflicts : ∀ group ∈ g.conflicts.getD [], ∀ name ∈ group, name ∈ g.rules
  inlined : ∀ name ∈ g.inlined.getD [], name ∈ g.rules
  supertypes : ∀ name ∈ g.supertypes.getD [], name ∈ g.rules
  word : ∀ name, g.word = some name → name ∈ g.rules
  extras : ∀ r ∈ g.extraRules, g.ReferencesDefined r
  precedences : ∀ order ∈ g.precedences.getD [], ∀ r ∈ order, g.ReferencesDefined r
  patterns : ∀ name body, g.rule? name = some body → body.PatternsUsable check
  literals : ∀ name body, g.rule? name = some body → body.LiteralsFilled
  extraPatterns : ∀ r ∈ g.extraRules, r.PatternsUsable check

/-! ## Faults -/

/-- What a property lists, in the order of its declaration: names of rules, or rules. -/
def listed (g : Grammar) : GrammarProperty → List String ⊕ List Rule
  | .conflicts => .inl (g.conflicts.getD []).flatten
  | .inlined => .inl (g.inlined.getD [])
  | .supertypes => .inl (g.supertypes.getD [])
  | .word => .inl g.word.toList
  | .extras => .inr g.extraRules
  | .precedences => .inr (g.precedences.getD []).flatten

/-- What is wrong at a place of a grammar. -/
inductive Fault (check : PatternCheck) (g : Grammar) : Position → ValidationError → Prop
  | start {e} : g.startRule = .error e → Fault check g ⟨.start, "", []⟩ (.grammar e)
  | symbol {rule body path passed r name} : g.rule? rule = some body →
    body.Walk path passed r → r.type = .symbol → r.name = some name → ¬g.Defined name →
    Fault check g ⟨.symbols, rule, path⟩ (.undefinedSymbol name rule)
  | name {property names i name} : g.listed property = .inl names → names[i]? = some name →
    name ∉ g.rules →
    Fault check g ⟨.property property, "", [i]⟩ (.undefinedReference name property)
  | reference {property rules i body path passed r name} : g.listed property = .inr rules →
    rules[i]? = some body → body.Walk path passed r → r.type = .symbol → r.name = some name →
    ¬g.Defined name →
    Fault check g ⟨.property property, "", i :: path⟩ (.undefinedReference name property)
  | pattern {rule body path passed r detail} : g.rule? rule = some body →
    body.Surfaces path passed r → r.type = .pattern →
    check (r.text?.getD "") r.ignoresCase = some detail →
    Fault check g ⟨.terminals, rule, path⟩ (.invalidPattern rule (r.text?.getD "") detail)
  | literal {rule body path passed r} : g.rule? rule = some body →
    body.Surfaces path passed r → r.type = .string →
    (∀ outer ∈ passed, outer.type ≠ .token ∧ outer.type ≠ .immediateToken) →
    (∀ text, r.text? = some text → text = "") →
    Fault check g ⟨.terminals, rule, path⟩ (.emptyString rule)
  | extraPattern {i body path passed r detail} : g.extraRules[i]? = some body →
    body.Surfaces path passed r → r.type = .pattern →
    check (r.text?.getD "") r.ignoresCase = some detail →
    Fault check g ⟨.extraTerminals, "", i :: path⟩
      (.invalidPattern "extras" (r.text?.getD "") detail)

end Grammar
end GrammarArtifact
