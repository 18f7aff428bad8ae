import GrammarArtifact.Rule.Basic

/-! # Building rules

One function for each kind of rule that sets the attributes which that kind uses. -/

namespace GrammarArtifact.Rule

def blank : Rule := { type := .blank }

def literal (text : String) : Rule := { type := .string, value := some (.string text) }

def pattern (source : String) : Rule := { type := .pattern, value := some (.string source) }

def symbol (name : String) : Rule := { type := .symbol, name := some name }

def choice (members : List Rule) : Rule := { type := .choice, members }

def seq (members : List Rule) : Rule := { type := .seq, members }

def repeated (content : Rule) : Rule := { type := .repeated, content := some content }

def repeated1 (content : Rule) : Rule := { type := .repeated1, content := some content }

def prec (level : Int) (content : Rule) : Rule :=
  { type := .prec, value := some (.integer level), content := some content }

def precLeft (level : Int) (content : Rule) : Rule :=
  { type := .precLeft, value := some (.integer level), content := some content }

def field (name : String) (content : Rule) : Rule :=
  { type := .field, name := some name, content := some content }

/-- A rule that shows as a named node of the given kind. -/
def aliased (kind : String) (content : Rule) : Rule :=
  { type := .aliased, value := some (.string kind), named := some true, content := some content }

def token (content : Rule) : Rule := { type := .token, content := some content }

def optional (content : Rule) : Rule := choice [content, blank]

end GrammarArtifact.Rule
