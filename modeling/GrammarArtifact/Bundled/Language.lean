import GrammarArtifact.Bundled.Artifact
import GrammarArtifact.Language.Basic

/-! # The bundled language -/

namespace GrammarArtifact.Bundled

def language : Except LanguageError Language :=
  Language.ofTextNamed text name

end GrammarArtifact.Bundled
