import GrammarArtifact.Validation.Basic

/-! # Errors of a grammar

The checks run one after the other and the first error counts. Which patterns can be used is a
parameter: a function that gives what is wrong with a pattern, if anything is. -/

namespace GrammarArtifact

/-- What is wrong with a pattern, given whether case does not count. -/
abbrev PatternCheck := (pattern : String) → (ignoreCase : Bool) → Option String

namespace Rule

mutual

/-- The literals and patterns in a body, each with whether it is inside a token. What stands inside
a literal or a pattern does not count. -/
def terminals (inToken : Bool) : Rule → List (Rule × Bool)
  | r@⟨type, _, _, content, members, _, _, _⟩ =>
    if type = .string || type = .pattern then [(r, inToken)]
    else
      let inside := inToken || type.isToken
      contentTerminals inside content ++ memberTerminals inside members

def contentTerminals (inToken : Bool) : Option Rule → List (Rule × Bool)
  | none => []
  | some r => r.terminals inToken

def memberTerminals (inToken : Bool) : List Rule → List (Rule × Bool)
  | [] => []
  | r :: rest => r.terminals inToken ++ memberTerminals inToken rest

end

def ignoresCase (r : Rule) : Bool := r.flags.any fun flags => flags.toList.contains 'i'

def terminalError? (check : PatternCheck) (context : String) (inToken : Bool) (r : Rule) :
    Option ValidationError :=
  if r.type = .pattern then
    let pattern := r.text?.getD ""
    (check pattern r.ignoresCase).map (.invalidPattern context pattern)
  else if !inToken && r.text?.all String.isEmpty then some (.emptyString context)
  else none

end Rule

namespace Grammar

/-- The first reference in a body to a name that is not defined. -/
def undefinedIn? (g : Grammar) (body : Rule) : Option String :=
  (body.preorder.filterMap Rule.symbolName?).find? fun name => !g.defines name

def startError? (g : Grammar) : Option ValidationError :=
  match g.startRule with
  | .ok _ => none
  | .error e => some (.grammar e)

def symbolError? (g : Grammar) : Option ValidationError :=
  g.ruleEntries.findSome? fun (name, body) =>
    (g.undefinedIn? body).map fun symbol => .undefinedSymbol symbol name

/-- The first of some names that is not that of a rule. -/
def nameError? (g : Grammar) (property : GrammarProperty) (names : List String) :
    Option ValidationError :=
  (names.find? fun name => !g.rules.contains name).map fun name => .undefinedReference name property

/-- The first reference in some rules to a name that is not defined. -/
def referenceError? (g : Grammar) (property : GrammarProperty) (rules : List Rule) :
    Option ValidationError :=
  (rules.findSome? g.undefinedIn?).map fun name => .undefinedReference name property

def ruleTerminalError? (check : PatternCheck) (g : Grammar) : Option ValidationError :=
  g.ruleEntries.findSome? fun (name, body) =>
    (body.terminals false).findSome? fun (r, inToken) => r.terminalError? check name inToken

/-- Extras are tokens. -/
def extraTerminalError? (check : PatternCheck) (g : Grammar) : Option ValidationError :=
  g.extraRules.findSome? fun extra =>
    (extra.terminals true).findSome? fun (r, inToken) => r.terminalError? check "extras" inToken

def error? (check : PatternCheck) (g : Grammar) : Option ValidationError :=
  g.startError? <|> g.symbolError? <|>
  g.nameError? .conflicts (g.conflicts.getD []).flatten <|>
  g.nameError? .inlined (g.inlined.getD []) <|>
  g.nameError? .supertypes (g.supertypes.getD []) <|>
  g.nameError? .word g.word.toList <|>
  g.referenceError? .extras g.extraRules <|>
  g.referenceError? .precedences (g.precedences.getD []).flatten <|>
  g.ruleTerminalError? check <|> g.extraTerminalError? check

end Grammar
end GrammarArtifact
