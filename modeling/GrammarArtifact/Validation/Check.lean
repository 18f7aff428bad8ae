import GrammarArtifact.Pattern.Program
import GrammarArtifact.Validation.Errors
import GrammarArtifact.Validation.Warnings

/-! # Checking a grammar -/

namespace GrammarArtifact.Grammar

/-- Checks a grammar: its first error, or all warnings about it. -/
def validateWith (check : PatternCheck) (g : Grammar) : Except ValidationError (List Warning) :=
  match g.error? check with
  | some e => .error e
  | none =>
    match g.startRule with
    | .ok start => .ok (g.warnings start)
    | .error e => .error (.grammar e)

/-- Checks a grammar, with the patterns that this library can use. -/
def validate (g : Grammar) : Except ValidationError (List Warning) :=
  g.validateWith Pattern.complaint?

end GrammarArtifact.Grammar
