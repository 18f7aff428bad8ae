import GrammarArtifact.NodeType.Basic

/-! # Summaries

A summary says what a rule body adds to the node around it. Summaries are put one after the other,
offered side by side and repeated, slot by slot; a slot that one side lacks counts as empty. -/

namespace GrammarArtifact

/-- How many nodes a slot gets: whether it can get one, whether it always does, and whether it can
get more than one. -/
structure Quantity where
  possible : Bool := false
  required : Bool := false
  multiple : Bool := false
  deriving DecidableEq, Repr

namespace Quantity

def one : Quantity := ⟨true, true, false⟩

/-- The nodes of two parts together. -/
def append (q r : Quantity) : Quantity :=
  { possible := q.possible || r.possible
    required := q.required || r.required
    multiple := q.multiple || r.multiple || (q.possible && r.possible) }

/-- The nodes of one part or the other. -/
def either (q r : Quantity) : Quantity :=
  { possible := q.possible || r.possible
    required := q.required && r.required
    multiple := q.multiple || r.multiple }

/-- The nodes of a part that is repeated, at least once or any number of times. -/
def repeated (atLeastOnce : Bool) (q : Quantity) : Quantity :=
  { possible := q.possible
    required := q.required && atLeastOnce
    multiple := q.possible }

end Quantity

/-- The nodes that a slot gets: how many, and of which kinds. -/
structure Slot where
  quantity : Quantity := {}
  types : KindSet := ∅
  deriving DecidableEq

namespace Slot

instance : Inhabited Slot := ⟨{}⟩

def one (node : NodeRef) : Slot := ⟨.one, .ofList [node]⟩

def append (s t : Slot) : Slot := ⟨s.quantity.append t.quantity, s.types ∪ t.types⟩

def either (s t : Slot) : Slot := ⟨s.quantity.either t.quantity, s.types ∪ t.types⟩

def repeated (atLeastOnce : Bool) (s : Slot) : Slot :=
  { s with quantity := s.quantity.repeated atLeastOnce }

def info (s : Slot) : SlotInfo := ⟨s.quantity.multiple, s.quantity.required, s.types.toList⟩

end Slot

def mergeSlots (combine : Slot → Slot → Slot) (left right : NameMap Slot) : NameMap Slot :=
  (left ∪ right).map fun name _ => combine (left.getD name {}) (right.getD name {})

/-- What a rule body adds to the node around it. -/
structure Summary where
  fields : NameMap Slot := ∅
  /-- The named nodes outside of fields. -/
  children : Slot := {}
  /-- All nodes, named or not, those in fields among them. -/
  nodes : Slot := {}
  deriving DecidableEq

namespace Summary

instance : Inhabited Summary := ⟨{}⟩

def named (kind : String) : Summary :=
  { children := .one ⟨kind, true⟩, nodes := .one ⟨kind, true⟩ }

/-- An anonymous node; nothing if there is no text for it. -/
def anonymous : Option String → Summary
  | none => {}
  | some kind => { nodes := .one ⟨kind, false⟩ }

def append (s t : Summary) : Summary :=
  { fields := mergeSlots .append s.fields t.fields
    children := s.children.append t.children
    nodes := s.nodes.append t.nodes }

def either (s t : Summary) : Summary :=
  { fields := mergeSlots .either s.fields t.fields
    children := s.children.either t.children
    nodes := s.nodes.either t.nodes }

def repeated (atLeastOnce : Bool) (s : Summary) : Summary :=
  { fields := s.fields.map fun _ slot => slot.repeated atLeastOnce
    children := s.children.repeated atLeastOnce
    nodes := s.nodes.repeated atLeastOnce }

/-- All nodes as the content of a field, which takes the place of a field of that name inside. -/
def inField (name : String) (s : Summary) : Summary :=
  { fields := s.fields.insert name s.nodes, children := {}, nodes := s.nodes }

def nodeType (kind : String) (s : Summary) : NodeType :=
  { kind, named := true
    fields := s.fields.map fun _ slot => slot.info
    children := if s.children.quantity.possible then some s.children.info else none }

end Summary
end GrammarArtifact
