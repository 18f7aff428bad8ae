import GrammarArtifact.Json.Writer
import GrammarArtifact.Rule.Basic

/-! # Writing rules

An attribute that is absent is left out. The list of members is written for the kinds that consist
of members, and for any other rule that has some. -/

namespace GrammarArtifact

def RuleValue.toJson : RuleValue → Json.Value
  | .string s => .text s
  | .integer i => .integer i

namespace Rule

def attributeMember {α : Type} (key : String) (write : α → Json.Value) (value : Option α) :
    List (String × Json.Value) :=
  value.toList.map fun a => (key, write a)

mutual

def toJson : Rule → Json.Value
  | ⟨type, value, name, content, members, named, flags, contextName⟩ =>
    let memberList := membersToJson members
    let hasMembers := !memberList.isEmpty || type = .seq || type = .choice
    .object ([("type", .text type.name)] ++ attributeMember "value" RuleValue.toJson value ++
      attributeMember "name" .text name ++ attributeMember "content" id (contentToJson content) ++
      (if hasMembers then [("members", .list memberList)] else []) ++
      attributeMember "named" .boolean named ++ attributeMember "flags" .text flags ++
      attributeMember "context_name" .text contextName)

def contentToJson : Option Rule → Option Json.Value
  | none => none
  | some r => some r.toJson

def membersToJson : List Rule → List Json.Value
  | [] => []
  | r :: rest => r.toJson :: membersToJson rest

end

end Rule
end GrammarArtifact
