import GrammarArtifact.Grammar.Basic

/-! # Node types

A node type says what a node of one kind may hold: a slot for each field, and one for the children
outside of fields. Kinds are named, for rules, or anonymous, for literals. -/

namespace GrammarArtifact

structure NodeRef where
  kind : String
  named : Bool
  deriving DecidableEq, Repr, Inhabited

namespace NodeRef

/-- Kinds are ordered by their text; of one text the anonymous kind comes first. -/
instance : Ord NodeRef := ⟨compareLex (compareOn kind) (compareOn named)⟩

instance : Std.TransOrd NodeRef :=
  inferInstanceAs (Std.TransCmp (compareLex (compareOn kind) (compareOn named)))

instance : Std.LawfulEqOrd NodeRef where
  eq_of_compare {a b} h := by
    have both : (compare a.kind b.kind).then (compare a.named b.named) = .eq := h
    rw [Ordering.then_eq_eq] at both
    cases a
    cases b
    simp_all

end NodeRef

abbrev KindSet := Std.ExtTreeSet NodeRef

/-- What a slot of a node may hold. -/
structure SlotInfo where
  /-- Several nodes may be in the slot. -/
  multiple : Bool
  /-- At least one node is always in the slot. -/
  required : Bool
  /-- The kinds of nodes that may be in the slot, in order. -/
  types : List NodeRef
  deriving DecidableEq, Repr

/-- What a node of one kind may hold. -/
structure NodeType where
  kind : String
  named : Bool
  fields : NameMap SlotInfo
  /-- The named children outside of fields; none if there are no such children. -/
  children : Option SlotInfo
  deriving DecidableEq

namespace NodeType

/-- The type of a node that holds nothing. -/
def leaf (kind : String) (named : Bool) : NodeType := ⟨kind, named, ∅, none⟩

def ref (t : NodeType) : NodeRef := ⟨t.kind, t.named⟩

def field? (t : NodeType) (name : String) : Option SlotInfo := t.fields[name]?

end NodeType
end GrammarArtifact
