import GrammarArtifact.NodeType.Expansion

/-! # The table of node types

The table lists the named kinds in order and then the anonymous ones in order. Named kinds are the
visible rules and externals and the names that aliases give; anonymous kinds are the literals that
stand on their own, anonymous aliases and literal externals. -/

namespace GrammarArtifact
namespace Rule

mutual

/-- The anonymous kinds in a body. The literals inside a token are part of it, apart from one that
is all of the token. An alias renames a token as a whole and leaves the literals of another body as
they are. -/
def anonymousKinds : Rule → List String
  | r@⟨type, _, _, content, members, _, _, _⟩ =>
    match type with
    | .string => r.text?.toList
    | .token | .immediateToken => (content.bind stringValue?).toList
    | .aliased => (if r.isNamed then [] else r.text?.toList) ++ renamedKinds content
    | _ => contentKinds content ++ memberKinds members

/-- The anonymous kinds in a body that an alias renames. -/
def renamedKinds : Option Rule → List String
  | none => []
  | some r => if r.isLexical then [] else r.anonymousKinds

def contentKinds : Option Rule → List String
  | none => []
  | some r => r.anonymousKinds

def memberKinds : List Rule → List String
  | [] => []
  | r :: rest => r.anonymousKinds ++ memberKinds rest

end

/-- The name and the content of a named alias. -/
def namedAlias? (r : Rule) : Option (String × Rule) :=
  if r.type = .aliased && r.isNamed then do return (← r.text?, ← r.content) else none

end Rule

namespace Grammar

/-- The literals that surface as anonymous nodes. A literal that is a whole leaf surfaces under the
name of its rule. -/
def anonymousKinds (g : Grammar) : NameSet :=
  let bodies := g.ruleEntries.map Prod.snd |>.filter fun body => !body.isLexical
  .ofList ((bodies ++ g.extraRules).flatMap Rule.anonymousKinds ++
    g.externalRules.filterMap Rule.stringValue?)

/-- The named aliases with what they rename, in the order of the rules they are in. -/
def namedAliases (g : Grammar) : List (String × Rule) :=
  g.ruleEntries.flatMap fun entry => entry.2.preorder.filterMap Rule.namedAlias?

/-- The type of the nodes that an alias renames: that of the rule it refers to, or that of its
content. -/
def aliasType (g : Grammar) (name : String) (content : Rule) : NodeType :=
  match content.symbolName? with
  | some target =>
    match g.rule? target with
    | some body => g.nodeType name body
    | none => .leaf name true
  | none => g.nodeType name content

def ruleTypes (g : Grammar) : NameMap NodeType :=
  .ofList ((g.ruleEntries.filter fun entry => !g.isHidden entry.1).map fun (name, body) =>
    (name, g.nodeType name body))

/-- The types of all named kinds. A rule comes before an external and an external before an alias
of its name; of several aliases the first counts. -/
def namedTypes (g : Grammar) : NameMap NodeType :=
  let externals := g.externalNames.filter fun name => !g.isHidden name
  let withExternals := externals.foldl (fun types name =>
    types.insertIfNew name (.leaf name true)) g.ruleTypes
  g.namedAliases.foldl (fun types (name, content) =>
    if types.contains name then types else types.insert name (g.aliasType name content))
    withExternals

def nodeTypes (g : Grammar) : List NodeType :=
  g.namedTypes.toList.map Prod.snd ++ g.anonymousKinds.toList.map fun kind => .leaf kind false

end Grammar
end GrammarArtifact
