import GrammarArtifact.File.Directory
import GrammarArtifact.Grammar.Reader
import GrammarArtifact.Language.Event
import GrammarArtifact.NodeType.Writer
import GrammarArtifact.Validation.Check

/-! # Languages

A language is a grammar that has been checked, with its tables. Symbols are numbered from zero,
which stands for the end of the input; then come the node types in their order. Fields are numbered
from one in the order of their names. Numbers take 16 bits, so what lies beyond has none. -/

namespace GrammarArtifact

/-- A checked grammar with its tables. -/
structure Language where
  grammar : Grammar
  startRule : String
  nodeTypes : List NodeType
  fields : List String
  warnings : List Warning
  deriving DecidableEq

inductive LanguageError where
  | unreadableFile (path : String) (problem : FileProblem)
  /-- The text is not that of a grammar. -/
  | grammar (error : GrammarError)
  /-- The grammar does not pass the checks. -/
  | invalid (error : ValidationError)
  | nameMismatch (expected found : String)
  deriving DecidableEq, Repr

def LanguageError.message : LanguageError → String
  | .unreadableFile path problem => s!"failed to read grammar file {path}: {problem.message}"
  | .grammar error => error.message
  | .invalid error => error.message
  | .nameMismatch expected found => s!"expected grammar '{expected}', found '{found}'"

namespace Grammar

def fieldNames (g : Grammar) : NameSet :=
  .ofList (g.ruleEntries.flatMap fun entry => entry.2.preorder.filterMap Rule.fieldName?)

end Grammar

namespace Language

def version : Nat := 14

def endSymbol : NodeRef := ⟨"end", false⟩

/-- Numbers of symbols and fields lie below this one. -/
def idLimit : Nat := 0x10000

/-- Checks a grammar and builds its tables. -/
def ofGrammarWith (check : PatternCheck) (g : Grammar) : Except LanguageError Language :=
  match g.validateWith check, g.startRule with
  | .ok warnings, .ok startRule =>
    .ok { grammar := g, startRule, warnings
          nodeTypes := g.nodeTypes
          fields := g.fieldNames.toList }
  | .error e, _ => .error (.invalid e)
  | _, .error e => .error (.grammar e)

def ofGrammar (g : Grammar) : Except LanguageError Language :=
  ofGrammarWith Pattern.complaint? g

def ofTextWith (check : PatternCheck) (text : String) : Except LanguageError Language :=
  match Grammar.parse text with
  | .ok g => ofGrammarWith check g
  | .error e => .error (.grammar e)

def ofText (text : String) : Except LanguageError Language :=
  ofTextWith Pattern.complaint? text

/-- Loads a language from a text whose grammar must have the given name. The name is compared
before the grammar is checked. -/
def ofTextNamed (text expected : String) : Except LanguageError Language :=
  match Grammar.parse text with
  | .ok g => if g.name = expected then ofGrammar g else .error (.nameMismatch expected g.name)
  | .error e => .error (.grammar e)

/-- Loads a language from a file, given what reads files. -/
def ofFile (read : String → Except FileProblem ByteArray) (path : String) :
    Except LanguageError Language :=
  match read path >>= decodeText with
  | .ok text => ofText text
  | .error problem => .error (.unreadableFile path problem)

def name (l : Language) : String := l.grammar.name

def conflicts (l : Language) : List (List String) := l.grammar.conflicts.getD []

/-- All symbols in the order of their numbers. -/
def symbols (l : Language) : List NodeRef := endSymbol :: l.nodeTypes.map NodeType.ref

def nodeKindCount (l : Language) : Nat := l.symbols.length

def symbol? (l : Language) (id : Nat) : Option NodeRef :=
  if id < idLimit then l.symbols[id]? else none

def nodeKindForId? (l : Language) (id : Nat) : Option String := (l.symbol? id).map NodeRef.kind

/-- Whether a symbol is named; a number without a symbol is not. -/
def nodeKindIsNamed (l : Language) (id : Nat) : Bool := (l.symbol? id).any NodeRef.named

/-- The number of the first symbol of a kind. -/
def idForNodeKind? (l : Language) (kind : String) (named : Bool) : Option Nat :=
  (l.symbols.findIdx? (· = ⟨kind, named⟩)).filter (· < idLimit)

def fieldCount (l : Language) : Nat := l.fields.length

def fieldNameForId? (l : Language) (id : Nat) : Option String :=
  if 0 < id ∧ id < idLimit then l.fields[id - 1]? else none

def fieldIdForName? (l : Language) (name : String) : Option Nat :=
  ((l.fields.findIdx? (· = name)).map (· + 1)).filter (· < idLimit)

def nodeType? (l : Language) (kind : String) (named : Bool) : Option NodeType :=
  l.nodeTypes.find? fun t => t.kind = kind && t.named = named

def nodeTypesText (l : Language) : String := NodeType.renderAll l.nodeTypes

def events (l : Language) : List Event :=
  l.warnings.map (.warning l.name) ++
    [.loaded l.name l.grammar.rules.size l.nodeKindCount l.fieldCount l.warnings.length]

end Language
end GrammarArtifact
