import GrammarArtifact.Grammar.Basic

/-! # Findings about a grammar

An error keeps a grammar from being loaded; a warning does not. -/

namespace GrammarArtifact

/-- The properties of a grammar that list rules or hold references. -/
inductive GrammarProperty where
  | conflicts
  | inlined
  | supertypes
  | word
  | extras
  | precedences
  deriving DecidableEq, Repr

def GrammarProperty.name : GrammarProperty → String
  | .conflicts => "conflicts"
  | .inlined => "inline"
  | .supertypes => "supertypes"
  | .word => "word"
  | .extras => "extras"
  | .precedences => "precedences"

inductive ValidationError where
  | grammar (error : GrammarError)
  /-- A reference in a rule that names neither a rule nor an external. -/
  | undefinedSymbol (symbol rule : String)
  /-- A name in a property that is not defined. -/
  | undefinedReference (symbol : String) (property : GrammarProperty)
  /-- A pattern that cannot be used, and why. -/
  | invalidPattern (rule pattern detail : String)
  /-- A literal that matches nothing. -/
  | emptyString (rule : String)
  deriving DecidableEq, Repr

def ValidationError.message : ValidationError → String
  | .grammar error => error.message
  | .undefinedSymbol symbol rule => s!"undefined symbol '{symbol}' referenced in rule '{rule}'"
  | .undefinedReference symbol property => s!"undefined rule '{symbol}' listed in {property.name}"
  | .invalidPattern rule pattern detail =>
    s!"invalid pattern /{pattern}/ in rule '{rule}': {detail}"
  | .emptyString rule => s!"empty string literal in rule '{rule}'"

inductive Warning where
  /-- Neither the start rule nor the extras lead to the rule. -/
  | unreachableRule (rule : String)
  /-- The rule begins with a reference to itself. -/
  | leftRecursion (rule : String)
  /-- The rule sets several levels of precedence, given in ascending order. -/
  | mixedPrecedence (rule : String) (levels : List Int)
  deriving DecidableEq, Repr

def Warning.rule : Warning → String
  | .unreachableRule rule => rule
  | .leftRecursion rule => rule
  | .mixedPrecedence rule _ => rule

def Warning.message : Warning → String
  | .unreachableRule rule => s!"unreachable rule '{rule}'"
  | .leftRecursion rule => s!"rule '{rule}' has left recursion"
  | .mixedPrecedence rule levels =>
    let shown := String.intercalate ", " (levels.map fun level => s!"{level}")
    s!"rule '{rule}' has multiple precedence levels: [{shown}]"

def Warning.unreachable (warnings : List Warning) : List String :=
  warnings.filterMap fun
    | .unreachableRule rule => some rule
    | _ => none

end GrammarArtifact
