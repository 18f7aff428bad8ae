import GrammarArtifact.NodeType.Summary

/-! # Summaries of rule bodies

A reference to a visible rule or external is a node. A reference to a hidden rule is expanded into
the body of that rule, unless the rule is a token or is being expanded already: then it adds
nothing. -/

namespace GrammarArtifact
namespace Rule

/-- The text of the only literal that a token holds. -/
def tokenText? (content : Option Rule) : Option String := content.bind stringValue?

mutual

/-- The summary of a body, given what a reference adds. -/
def summary (expand : String → Summary) : Rule → Summary
  | r@⟨type, _, name, content, members, _, _, _⟩ =>
    match type with
    | .blank | .pattern => {}
    | .string => .anonymous r.text?
    | .token | .immediateToken => .anonymous (tokenText? content)
    | .symbol => name.elim {} expand
    | .aliased =>
      match r.text? with
      | some text => if r.isNamed then .named text else .anonymous (some text)
      | none => {}
    | .seq => sequenceSummary expand members
    | .choice => choiceSummary expand members
    | .repeated => (contentSummary expand content).repeated false
    | .repeated1 => (contentSummary expand content).repeated true
    | .field =>
      match name with
      | some field => (contentSummary expand content).inField field
      | none => contentSummary expand content
    | .prec | .precLeft | .precRight | .precDynamic | .reserved => contentSummary expand content

/-- The summary of a content; nothing if it is absent. -/
def contentSummary (expand : String → Summary) : Option Rule → Summary
  | none => {}
  | some r => r.summary expand

/-- The summary of rules one after the other. -/
def sequenceSummary (expand : String → Summary) : List Rule → Summary
  | [] => {}
  | r :: rest => (r.summary expand).append (sequenceSummary expand rest)

/-- The summary of a choice between rules; nothing if there are none. -/
def choiceSummary (expand : String → Summary) : List Rule → Summary
  | [] => {}
  | [r] => r.summary expand
  | r :: rest => (r.summary expand).either (choiceSummary expand rest)

end
end Rule

namespace Grammar

/-- The body into which a reference is expanded: that of a hidden rule which is no token and is not
being expanded. -/
def expansion? (g : Grammar) (expanding : List String) (name : String) : Option Rule :=
  if g.isHidden name && !expanding.contains name then
    (g.rule? name).filter fun body => !body.isLexical
  else none

/-- What a reference adds, given the summary of the body into which it is expanded. -/
def referenceSummary (g : Grammar) (expanding : List String) (expand : Rule → Summary)
    (name : String) : Summary :=
  if !g.defines name then {}
  else if !g.isHidden name then .named name
  else (g.expansion? expanding name).elim {} expand

/-- The summary of a body while the rules in `expanding` are being expanded. At most `room` more
rules can be expanded inside each other. -/
def summaryWithin (g : Grammar) : (room : Nat) → (expanding : List String) → Rule → Summary
  | 0, _, body => body.summary (g.referenceSummary [] fun _ => {})
  | room + 1, expanding, body =>
    body.summary fun name =>
      g.referenceSummary expanding (g.summaryWithin room (name :: expanding)) name

/-- The summary of a body while the rules in `expanding` are being expanded. No rule is expanded
inside itself, so there is room for as many as there are rules. -/
def summarize (g : Grammar) (expanding : List String) (body : Rule) : Summary :=
  g.summaryWithin g.rules.size expanding body

def nodeType (g : Grammar) (kind : String) (body : Rule) : NodeType :=
  if body.isLexical then .leaf kind true else (g.summarize [] body).nodeType kind

end Grammar
end GrammarArtifact
