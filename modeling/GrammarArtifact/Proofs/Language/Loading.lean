import GrammarArtifact.Language.Basic

/-! # Which grammars are loaded

A grammar is loaded just if the checks find no error in it, and all tables of the
language are then functions of the grammar. Otherwise the error tells a text that
cannot be read from a grammar that the checks refuse. -/

namespace GrammarArtifact
variable {check : PatternCheck} {g : Grammar} {l : Language} {e : LanguageError}

namespace Language

/-- The language of a grammar whose parses start from the given rule. -/
def tables (g : Grammar) (start : String) : Language where
  grammar := g
  startRule := start
  nodeTypes := g.nodeTypes
  fields := g.fieldNames.toList
  warnings := g.warnings start

/-- **A grammar without errors is loaded, and no other.** -/
theorem ofGrammarWith_eq_ok : ofGrammarWith check g = .ok l ↔
    g.error? check = none ∧ ∃ start, g.startRule = .ok start ∧ l = tables g start := by
  unfold ofGrammarWith Grammar.validateWith
  cases g.error? check with
  | some e => simp
  | none =>
    cases g.startRule with
    | error e => simp
    | ok start => simp [tables, eq_comm]

theorem ofGrammarWith_eq_error : ofGrammarWith check g = .error e ↔
    ∃ error, g.validateWith check = .error error ∧ e = .invalid error := by
  unfold ofGrammarWith Grammar.validateWith
  cases g.error? check with
  | some error => simp [eq_comm]
  | none => cases g.startRule <;> simp [eq_comm]

/-- **A failed load says what failed.** Either the text is not that of a grammar, or the grammar
does not pass the checks, and the error is the one that was found there. -/
theorem ofTextWith_eq_error {text : String} : ofTextWith check text = .error e ↔
    (∃ error, Grammar.parse text = .error error ∧ e = .grammar error) ∨
      ∃ g error, Grammar.parse text = .ok g ∧ g.validateWith check = .error error ∧
        e = .invalid error := by
  unfold ofTextWith
  cases Grammar.parse text with
  | error error => simp [eq_comm]
  | ok g => simp [ofGrammarWith_eq_error]

theorem nodeTypes_of_loaded (loaded : ofGrammarWith check g = .ok l) :
    l.nodeTypes = g.nodeTypes := by
  obtain ⟨_, _, _, rfl⟩ := ofGrammarWith_eq_ok.mp loaded
  rfl

end Language
end GrammarArtifact
