import GrammarArtifact.Grammar.Basic
import GrammarArtifact.Rule.Build

/-! # Families of grammars

A family has a grammar of every size. Each family makes one table large: the anonymous kinds, the
fields, the rules, or the rules that are expanded inside each other. -/

namespace GrammarArtifact

/-- What a family has many of. -/
inductive GrammarFamily where
  | literals
  | fields
  | rules
  | hiddenChain
  deriving DecidableEq, Repr

namespace GrammarFamily
open Rule

/-- A letter and a number of at least six digits. -/
def numbered (letter : Char) (i : Nat) : String :=
  let digits := Nat.toDigits 10 i
  String.ofList (letter :: (List.replicate (6 - digits.length) '0' ++ digits))

def linkName (i : Nat) : String := s!"_h{i}"

def rulesOfSize (n : Nat) : GrammarFamily → List (String × Rule)
  | .literals =>
    [(Grammar.defaultStart, seq ((List.range n).map fun i => literal (numbered 'k' i)))]
  | .fields =>
    [(Grammar.defaultStart, literal "x"),
      ("_unused", choice ((List.range n).map fun i => field (numbered 'f' i) (literal "x")))]
  | .rules =>
    let names := (List.range n).map (numbered 'r')
    (Grammar.defaultStart, choice (names.map symbol)) ::
      names.map fun name => (name, pattern "[a-z]")
  | .hiddenChain =>
    let link (i : Nat) : String × Rule :=
      (linkName i, seq [literal "+", symbol (if i + 1 = n then "leaf" else linkName (i + 1))])
    [(Grammar.defaultStart, symbol (linkName 0)), ("leaf", pattern "[a-z]+")] ++
      (List.range n).map link

def grammar (family : GrammarFamily) (n : Nat) : Grammar :=
  { name := "generated", rules := .ofList (family.rulesOfSize n) }

end GrammarFamily
end GrammarArtifact
