import GrammarArtifact.Grammar.Worklist
import GrammarArtifact.Validation.Basic

/-! # Warnings about a grammar -/

namespace GrammarArtifact
namespace Rule

mutual

/-- Whether a body begins with a reference to the name: a sequence begins as its first member does
and a choice as any of its members. -/
def beginsWith (name : String) : Rule → Bool
  | r@⟨type, _, _, content, members, _, _, _⟩ =>
    match type with
    | .symbol => r.symbolName? = some name
    | .seq => firstBeginsWith name members
    | .choice => anyBeginsWith name members
    | .prec | .precLeft | .precRight | .precDynamic | .field | .aliased | .repeated
    | .repeated1 => contentBeginsWith name content
    | _ => false

def contentBeginsWith (name : String) : Option Rule → Bool
  | none => false
  | some r => r.beginsWith name

def firstBeginsWith (name : String) : List Rule → Bool
  | [] => false
  | r :: _ => r.beginsWith name

def anyBeginsWith (name : String) : List Rule → Bool
  | [] => false
  | r :: rest => r.beginsWith name || anyBeginsWith name rest

end

/-- The distinct levels of the precedences in a body, ascending. -/
def precedenceLevels (r : Rule) : List Int :=
  (Std.ExtTreeSet.ofList (r.preorder.filterMap precedence?) compare).toList

end Rule

namespace Grammar

/-- The rules to which neither the start rule nor the extras lead. A hidden rule may be unused. -/
def unreachableRules (g : Grammar) (start : String) : List String :=
  let reached := g.reachableFrom (start :: g.extraRules.flatMap Rule.references)
  g.ruleNames.filter fun name => !reached.contains name && !g.isHidden name

def leftRecursiveRules (g : Grammar) : List String :=
  (g.ruleEntries.filter fun (name, body) => body.beginsWith name).map Prod.fst

def mixedPrecedences (g : Grammar) : List (String × List Int) :=
  (g.ruleEntries.map fun (name, body) => (name, body.precedenceLevels)).filter fun entry =>
    1 < entry.2.length

/-- All warnings, kind by kind and in each kind in the order of the rules. -/
def warnings (g : Grammar) (start : String) : List Warning :=
  (g.unreachableRules start).map .unreachableRule ++
  g.leftRecursiveRules.map .leftRecursion ++
  g.mixedPrecedences.map fun (name, levels) => .mixedPrecedence name levels

end Grammar
end GrammarArtifact
