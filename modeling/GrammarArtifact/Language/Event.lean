import GrammarArtifact.Validation.Basic

/-! # What is logged

Checking a grammar logs its warnings, and loading it says what was loaded. -/

namespace GrammarArtifact

/-- How grave an event is, the gravest first. -/
inductive LogLevel where
  | error
  | warn
  | info
  | debug
  | trace
  deriving DecidableEq, Repr

namespace LogLevel

def name : LogLevel → String
  | .error => "ERROR"
  | .warn => "WARN"
  | .info => "INFO"
  | .debug => "DEBUG"
  | .trace => "TRACE"

/-- How much a log holds that goes down to this level. -/
def rank : LogLevel → Nat
  | .error => 1
  | .warn => 2
  | .info => 3
  | .debug => 4
  | .trace => 5

end LogLevel

inductive Event where
  | warning (grammar : String) (warning : Warning)
  | loaded (grammar : String) (rules nodeKinds fields warnings : Nat)
  deriving DecidableEq, Repr

namespace Event

/-- Left recursion is common in grammars, so it is not worth a warning. -/
def level : Event → LogLevel
  | .warning _ (.leftRecursion _) => .debug
  | .warning _ _ => .warn
  | .loaded .. => .debug

def message : Event → String
  | .warning _ w => w.message
  | .loaded .. => "loaded language"

def values : Event → List (String × String)
  | .warning grammar _ => [("grammar", grammar)]
  | .loaded grammar rules nodeKinds fields warnings =>
    [("grammar", grammar), ("rules", toString rules), ("node_kinds", toString nodeKinds),
      ("fields", toString fields), ("warnings", toString warnings)]

def target : Event → String
  | .warning .. => "tree_sitter_calcit::validate"
  | .loaded .. => "tree_sitter_calcit::language"

def line (e : Event) : String :=
  s!"{e.level.name} {e.target}: {e.message}" ++
    String.join (e.values.map fun (key, value) => s!" {key}={value}")

end Event
end GrammarArtifact
