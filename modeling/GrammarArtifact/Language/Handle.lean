import GrammarArtifact.Language.Basic

/-! # Handles

A language is shared by handles. Every load makes a language of its own, even of the same text,
but the bundled language is loaded once. -/

namespace GrammarArtifact

/-- Which load a language comes from. -/
inductive LoadId where
  | bundled
  | numbered (n : Nat)
  deriving DecidableEq, Repr

structure Handle where
  load : LoadId
  language : Language

namespace Handle

/-- Whether two handles share one loaded language. -/
def shares (a b : Handle) : Bool := a.load = b.load

/-- Whether two handles are of equal languages. -/
def agrees (a b : Handle) : Bool := a.shares b || a.language = b.language

end Handle

end GrammarArtifact
