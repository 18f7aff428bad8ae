import GrammarArtifact.Json.Writer
import GrammarArtifact.NodeType.Table

/-! # Writing node types

The keys of an entry stand in a fixed order. Fields are left out where there are none, and so are
children. -/

namespace GrammarArtifact
open Json

def NodeRef.toJson (r : NodeRef) : Value :=
  .object [("type", .text r.kind), ("named", .boolean r.named)]

def SlotInfo.toJson (s : SlotInfo) : Value :=
  .object [("multiple", .boolean s.multiple), ("required", .boolean s.required),
    ("types", .list (s.types.map NodeRef.toJson))]

def NodeType.toJson (t : NodeType) : Value :=
  let fields := t.fields.toList.map fun (name, slot) => (name, slot.toJson)
  let fieldsMember := if fields.isEmpty then [] else [("fields", Value.object fields)]
  let childrenMember := t.children.toList.map fun slot => ("children", slot.toJson)
  .object ([("type", .text t.kind), ("named", .boolean t.named)] ++ fieldsMember ++ childrenMember)

def NodeType.renderAll (types : List NodeType) : String :=
  (Value.list (types.map toJson)).render 0

end GrammarArtifact
