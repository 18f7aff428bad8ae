import GrammarArtifact.Bundled.Language
import GrammarArtifact.Language.Handle

/-! # Sessions

A session holds handles in slots. It counts the loads, so that each load has an identity of its
own. -/

namespace GrammarArtifact

/-- Handles by the names of their slots, and how many languages have been loaded. -/
structure Session where
  slots : NameMap Handle := ∅
  loads : Nat := 0

namespace Session

def handle? (s : Session) (slot : String) : Option Handle := s.slots[slot]?

def put (s : Session) (slot : String) (handle : Handle) : Session :=
  { s with slots := s.slots.insert slot handle }

def drop (s : Session) (slot : String) : Session := { s with slots := s.slots.erase slot }

/-- Puts what has been loaded into a slot; a failed load leaves all slots as they are. -/
def load (s : Session) (slot : String) (loaded : Except LanguageError Language) :
    Except LanguageError Session :=
  loaded.map fun language => { s.put slot ⟨.numbered s.loads, language⟩ with loads := s.loads + 1 }

def loadBundled (s : Session) (slot : String) : Except LanguageError Session :=
  Bundled.language.map fun language => s.put slot ⟨.bundled, language⟩

def clone (s : Session) (slot target : String) : Session :=
  (s.handle? slot).elim s (s.put target)

end Session
end GrammarArtifact
