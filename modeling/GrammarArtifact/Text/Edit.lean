/-! # Edits of a text -/

namespace GrammarArtifact

/-- Replaces every occurrence of the first text of a pair by the second, pair by pair. -/
def replaceEach (pairs : List (String × String)) (text : String) : String :=
  pairs.foldl (fun text (old, new) => text.replace old new) text

/-- The characters at the front that take up at most so many bytes together. -/
def takeBytes : (bytes : Nat) → List Char → List Char
  | _, [] => []
  | bytes, c :: rest => if c.utf8Size ≤ bytes then c :: takeBytes (bytes - c.utf8Size) rest else []

end GrammarArtifact
