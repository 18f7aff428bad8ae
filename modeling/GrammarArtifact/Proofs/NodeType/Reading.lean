import GrammarArtifact.Language.Basic
import GrammarArtifact.Proofs.Grammar.Listing
import GrammarArtifact.Proofs.Json.Layout
import GrammarArtifact.Proofs.Json.Writing

/-! # Reading node types back

Whoever gets the text of a table reads it as a list of records: the key `type` gives the
kind, no fields stand for a map without entries, and no children for none. Reading gives
back the table that was written, whatever characters its kinds and fields have. -/

namespace GrammarArtifact
open Json Json.Reader

/-! ## Forms and layouts -/

def NodeRef.form : RecordForm NodeRef where
  title := "a kind"
  blank := default
  fields := [
    ⟨"type", true, fun r => return { r with kind := ← text "a string" }⟩,
    ⟨"named", true, fun r => return { r with named := ← boolean }⟩]

/-- The form of a slot inside which `room` more brackets may be open at once. -/
def SlotInfo.form (room : Nat) : RecordForm SlotInfo where
  title := "a slot"
  blank := ⟨false, false, []⟩
  fields := [
    ⟨"multiple", true, fun s => return { s with multiple := ← boolean }⟩,
    ⟨"required", true, fun s => return { s with required := ← boolean }⟩,
    ⟨"types", true, fun s => return { s with
      types := ← list room (record (room - 1) NodeRef.form) }⟩]

/-- The form of a node type inside which `room` more brackets may be open at once. -/
def NodeType.form (room : Nat) : RecordForm NodeType where
  title := "a node type"
  blank := .leaf "" false
  fields := [
    ⟨"type", true, fun t => return { t with kind := ← text "a string" }⟩,
    ⟨"named", true, fun t => return { t with named := ← boolean }⟩,
    ⟨"fields", false, fun t => return { t with
      fields := .ofList (← dictionary room (record (room - 1) (SlotInfo.form (room - 2)))) }⟩,
    ⟨"children", false, fun t => return { t with
      children := ← optional (record room (SlotInfo.form (room - 1))) }⟩]

/-- Reads a text that holds a table of node types. -/
def NodeType.parseAll (text : String) : Except String (List NodeType) :=
  let room := Rule.roomInDocument
  Reader.parse (list room (record (room - 1) (NodeType.form (room - 2)))) text

def NodeRef.layout : Layout NodeRef where
  blank := default
  properties := [
    ⟨"type", true, String, Tree.text?, fun r x => { r with kind := x }⟩,
    ⟨"named", true, Bool, Tree.boolean?, fun r x => { r with named := x }⟩]

def NodeRef.ofTree? (room : Nat) : Tree → Option NodeRef := NodeRef.layout.record? room

def SlotInfo.layout (room : Nat) : Layout SlotInfo where
  blank := ⟨false, false, []⟩
  properties := [
    ⟨"multiple", true, Bool, Tree.boolean?, fun s x => { s with multiple := x }⟩,
    ⟨"required", true, Bool, Tree.boolean?, fun s x => { s with required := x }⟩,
    ⟨"types", true, List NodeRef, Tree.list? room (NodeRef.ofTree? (room - 1)),
      fun s x => { s with types := x }⟩]

def SlotInfo.ofTree? (room : Nat) : Tree → Option SlotInfo := (layout (room - 1)).record? room

def NodeType.layout (room : Nat) : Layout NodeType where
  blank := .leaf "" false
  properties := [
    ⟨"type", true, String, Tree.text?, fun t x => { t with kind := x }⟩,
    ⟨"named", true, Bool, Tree.boolean?, fun t x => { t with named := x }⟩,
    ⟨"fields", false, NameMap SlotInfo, fun v =>
      (Tree.dictionary? room (SlotInfo.ofTree? (room - 1)) v).map (.ofList ·),
      fun t x => { t with fields := x }⟩,
    ⟨"children", false, Option SlotInfo, Tree.optional? (SlotInfo.ofTree? room),
      fun t x => { t with children := x }⟩]

def NodeType.ofTree? (room : Nat) : Tree → Option NodeType := (layout (room - 1)).record? room

theorem NodeRef.reads (room : Nat) : Reads (record room form) (ofTree? room) :=
  reads_record room ⟨.cons (.put (reads_text _)) (.cons (.put reads_boolean) .nil), rfl⟩

theorem SlotInfo.reads (room : Nat) : Reads (record room (form (room - 1))) (ofTree? room) :=
  reads_record room ⟨.cons (.put reads_boolean) <|
    .cons (.put reads_boolean) <|
    .cons (.put (reads_list _ (NodeRef.reads _))) .nil, rfl⟩

theorem NodeType.reads (room : Nat) : Reads (record room (form (room - 1))) (ofTree? room) :=
  reads_record room ⟨.cons (.put (reads_text _)) <|
    .cons (.put reads_boolean) <|
    .cons (.putMap (reads_dictionary _ (SlotInfo.reads _)) fun _ => rfl) <|
    .cons (.put (reads_optional (SlotInfo.reads _))) .nil, rfl⟩

/-! ## What is written is read -/

/-- The entries of a map make the map again. -/
theorem ofList_toList {α : Type} (m : NameMap α) : Std.ExtTreeMap.ofList m.toList = m := by
  refine Std.ExtTreeMap.ext_getElem? fun name => Option.ext fun a => ?_
  have distinct : (m.toList.map Prod.fst).Nodup := by
    rw [Std.ExtTreeMap.map_fst_toList_eq_keys]
    exact Std.ExtTreeMap.nodup_keys
  rw [getElem?_ofList_eq_some distinct, Std.ExtTreeMap.mem_toList_iff_getElem?_eq_some]

theorem NodeRef.ofTree?_toJson {room : Nat} (free : room ≠ 0) (r : NodeRef) :
    ofTree? room r.toJson.tree = some r :=
  Layout.Gives.record? (.given (Mark.text?_ofText r.kind) (.given rfl .done)) (by decide) free

theorem SlotInfo.ofTree?_toJson {room : Nat} (free : 3 ≤ room) (s : SlotInfo) :
    ofTree? room s.toJson.tree = some s := by
  have types : Tree.list? (room - 1) (NodeRef.ofTree? (room - 1 - 1))
      (Value.list (s.types.map NodeRef.toJson)).tree = some s.types :=
    Value.list?_tree (by omega) (NodeRef.ofTree?_toJson (by omega)) s.types
  refine Layout.Gives.record? (.given rfl (.given rfl (.given types .done))) ?_ (by omega)
  simp [layout]

namespace NodeType
variable {room : Nat}

theorem fields_toJson (free : 4 ≤ room) (fields : NameMap SlotInfo) :
    (Tree.dictionary? room (SlotInfo.ofTree? (room - 1))
      (Value.object (fields.toList.map fun e => (e.1, e.2.toJson))).tree).map (.ofList ·) =
        some fields := by
  rw [Value.dictionary?_tree (by omega) (SlotInfo.ofTree?_toJson (by omega)), Option.map_some,
    ofList_toList]

theorem children_toJson (free : 3 ≤ room) (slot : SlotInfo) :
    Tree.optional? (SlotInfo.ofTree? room) slot.toJson.tree = some (some slot) :=
  congrArg (Option.map some) (SlotInfo.ofTree?_toJson free slot)

/-- Fields and children that are left out are those of the blank node type. -/
theorem ofTree?_toJson (free : 5 ≤ room) (t : NodeType) :
    ofTree? room t.toJson.tree = some t := by
  obtain ⟨kind, named, fields, children⟩ := t
  have written : Layout.Gives ((layout (room - 1)).properties.drop 3)
      ((children.toList.map fun slot => ("children", slot.toJson)).map fun m => (m.1, m.2.tree))
      ⟨kind, named, fields, none⟩ ⟨kind, named, fields, children⟩ := by
    cases children with
    | none => exact .absent rfl .done
    | some slot => exact .given (children_toJson (by omega) slot) .done
  refine Layout.Gives.record? (.given (Mark.text?_ofText kind) (.given rfl ?_)) ?_
    (show room ≠ 0 by omega)
  · dsimp only
    by_cases empty : (fields.toList.map fun e => (e.1, e.2.toJson)).isEmpty
    · rw [if_pos empty]
      rw [List.isEmpty_iff, List.map_eq_nil_iff] at empty
      have none := ofList_toList fields
      rw [empty] at none
      rw [← none] at written ⊢
      exact .absent rfl written
    · rw [if_neg empty]
      exact .given (fields_toJson (by omega) fields) written
  · simp [layout]

end NodeType

/-- **The text of a table of node types is read as that table.** -/
theorem Language.parse_nodeTypesText (l : Language) :
    NodeType.parseAll l.nodeTypesText = .ok l.nodeTypes := by
  have spelled := (Value.list (l.nodeTypes.map NodeType.toJson)).spelled_render 0
  exact (reads_list _ (NodeType.reads _)).parse.mpr ⟨_, spelled,
    Value.list?_tree (by decide) (NodeType.ofTree?_toJson (by decide)) l.nodeTypes⟩

end GrammarArtifact
