import Std.Data.ExtTreeMap
import Std.Data.ExtTreeSet
import GrammarArtifact.Rule.Basic

/-! # Grammars

A grammar holds its rules in a map that is ordered by their names, so the order in which an
artifact lists them leaves no trace. Names are compared code point by code point, which is also
the order of their UTF-8 bytes. -/

namespace GrammarArtifact

/-- A map from names, in the order of the names. -/
abbrev NameMap (α : Type) := Std.ExtTreeMap String α

abbrev NameSet := Std.ExtTreeSet String

/-- A grammar as an artifact declares it. A property that is absent is `none`, which is not the
same as an empty list. -/
structure Grammar where
  schema : Option String := none
  name : String
  inherits : Option String := none
  rules : NameMap Rule
  /-- Tokens that may stand between any others. -/
  extras : Option (List Rule) := none
  /-- Tokens that a scanner outside the grammar finds. -/
  externals : Option (List Rule) := none
  /-- Rules that are expanded where they are used. -/
  inlined : Option (List String) := none
  /-- Orders between named precedences. -/
  precedences : Option (List (List Rule)) := none
  conflicts : Option (List (List String)) := none
  /-- Sets of reserved words by name. -/
  reserved : Option (NameMap (List Rule)) := none
  /-- The rule that words match. -/
  word : Option String := none
  supertypes : Option (List String) := none
  deriving DecidableEq

inductive StartProblem where
  | everyRuleReferenced
  | severalRoots (names : List String)
  deriving DecidableEq, Repr

/-- Why a grammar is no grammar: its text cannot be read, or it has nothing to start from. -/
inductive GrammarError where
  | unreadable (report : String)
  | noRules (grammar : String)
  | noStart (problem : StartProblem)
  deriving DecidableEq, Repr

def StartProblem.message : StartProblem → String
  | .everyRuleReferenced => "every rule is referenced by another rule"
  | .severalRoots names => "several unreferenced rules: " ++ String.intercalate ", " names

def GrammarError.message : GrammarError → String
  | .unreadable report => s!"JSON parse error: {report}"
  | .noRules grammar => s!"grammar '{grammar}' has no rules"
  | .noStart problem => s!"cannot determine start rule: {problem.message}"

namespace Grammar

def rule? (g : Grammar) (name : String) : Option Rule := g.rules[name]?

def ruleNames (g : Grammar) : List String := g.rules.keys

/-- The rules with their bodies, in the order of their names. -/
def ruleEntries (g : Grammar) : List (String × Rule) := g.rules.toList

def externalRules (g : Grammar) : List Rule := g.externals.getD []

def extraRules (g : Grammar) : List Rule := g.extras.getD []

/-- The names of the externals that have one, as declared. A literal external has none. -/
def externalNames (g : Grammar) : List String := g.externalRules.filterMap Rule.symbolName?

/-- Whether a name is that of a rule or of an external. -/
def defines (g : Grammar) (name : String) : Bool :=
  g.rules.contains name || g.externalNames.contains name

/-- Whether nodes of this name never show in a syntax tree: the name begins with an underscore,
or the rule is expanded where it is used. -/
def isHidden (g : Grammar) (name : String) : Bool :=
  name.startsWith "_" || (g.inlined.getD []).contains name

/-- The names that references anywhere in rule bodies refer to. -/
def referencedSymbols (g : Grammar) : NameSet :=
  .ofList (g.ruleEntries.flatMap fun entry => entry.2.preorder.filterMap Rule.symbolName?)

/-- The rule that a parse starts from by convention. -/
def defaultStart : String := "source_file"

/-- The rules that no rule body refers to, in order. -/
def roots (g : Grammar) : List String :=
  let referenced := g.referencedSymbols
  g.ruleNames.filter fun name => !referenced.contains name

/-- The rule that a parse starts from: the conventional one, or the only rule to which no rule
refers. -/
def startRule (g : Grammar) : Except GrammarError String :=
  if g.rules.isEmpty then .error (.noRules g.name)
  else if g.rules.contains defaultStart then .ok defaultStart
  else
    match g.roots with
    | [only] => .ok only
    | [] => .error (.noStart .everyRuleReferenced)
    | several => .error (.noStart (.severalRoots several))

end Grammar
end GrammarArtifact
