import Mathlib.Computability.Language
import GrammarArtifact.Proofs.Expansion.Shape

/-! # Slots and what they say

A summary has a slot for each field, one for the children and one for all nodes.
Each operation on summaries acts on every slot alone, so that one statement about
slots covers fields, children and nodes. A slot describes a set of words of kinds:
whether a word can have a kind, always has one, can have two, and which kinds
occur. The description is kept by one operation on languages for each operation on
slots. -/

namespace GrammarArtifact
open Computability

/-- A place in a summary. -/
inductive Place where
  | field (name : String)
  /-- The named nodes outside of fields. -/
  | children
  /-- All nodes. -/
  | anywhere
  /-- No nodes: where the children are, seen from inside a field. -/
  | nowhere
  deriving DecidableEq, Repr

namespace Place

/-- The place of the content of a field that lands in a place of the rule around it. -/
def inside (name : String) : Place → Place
  | .field other => if name = other then .anywhere else .field other
  | .children => .nowhere
  | .anywhere => .anywhere
  | .nowhere => .nowhere

end Place

section merge
variable {combine : Slot → Slot → Slot} {left right : NameMap Slot} {name : String}

theorem getElem?_mergeSlots : (mergeSlots combine left right)[name]? =
    if name ∈ left ∨ name ∈ right then
      some (combine (left.getD name {}) (right.getD name {}))
    else none := by
  unfold mergeSlots
  rw [Std.ExtTreeMap.getElem?_map]
  by_cases h : name ∈ left ∨ name ∈ right
  · have hm : name ∈ left ∪ right := Std.ExtTreeMap.mem_union_iff.mpr h
    rw [Std.ExtTreeMap.getElem?_eq_some_getElem hm, if_pos h]
    rfl
  · have hm : name ∉ left ∪ right := fun hm => h (Std.ExtTreeMap.mem_union_iff.mp hm)
    rw [Std.ExtTreeMap.getElem?_eq_none hm, if_neg h]
    rfl

theorem getD_mergeSlots (empty : combine {} {} = {}) :
    (mergeSlots combine left right).getD name {} =
      combine (left.getD name {}) (right.getD name {}) := by
  rw [Std.ExtTreeMap.getD_eq_getD_getElem?, getElem?_mergeSlots]
  split
  · rfl
  · rename_i h
    rw [not_or] at h
    rw [Std.ExtTreeMap.getD_eq_fallback h.1, Std.ExtTreeMap.getD_eq_fallback h.2, empty]
    rfl

theorem mem_mergeSlots : name ∈ mergeSlots combine left right ↔ name ∈ left ∨ name ∈ right := by
  rw [Std.ExtTreeMap.mem_iff_isSome_getElem?, getElem?_mergeSlots]
  split <;> simp_all

end merge

namespace Slot
variable {s t : Slot} {kind : NodeRef}

@[simp] theorem mem_types_append :
    kind ∈ (s.append t).types ↔ kind ∈ s.types ∨ kind ∈ t.types :=
  Std.ExtTreeSet.mem_union_iff

@[simp] theorem mem_types_either :
    kind ∈ (s.either t).types ↔ kind ∈ s.types ∨ kind ∈ t.types :=
  Std.ExtTreeSet.mem_union_iff

@[simp] theorem mem_types_repeated {atLeastOnce : Bool} :
    kind ∈ (s.repeated atLeastOnce).types ↔ kind ∈ s.types := Iff.rfl

/-- A slot is known by how many nodes it gets and by their kinds. -/
theorem ext_kinds (quantity : s.quantity = t.quantity)
    (kinds : ∀ kind, kind ∈ s.types ↔ kind ∈ t.types) : s = t := by
  have types : s.types = t.types := Std.ExtTreeSet.ext_mem fun {kind} => kinds kind
  cases s
  cases t
  simp_all

@[simp] theorem append_empty (s : Slot) : s.append {} = s :=
  ext_kinds (by simp [append, Quantity.append]) (by simp)

@[simp] theorem either_self (s : Slot) : s.either s = s :=
  ext_kinds (by simp [either, Quantity.either]) (by simp)

@[simp] theorem repeated_empty (atLeastOnce : Bool) : Slot.repeated atLeastOnce {} = {} := by
  simp [repeated, Quantity.repeated]

end Slot

namespace Summary

/-- The slot at a place. -/
def slot (s : Summary) : Place → Slot
  | .field name => s.fields.getD name {}
  | .children => s.children
  | .anywhere => s.nodes
  | .nowhere => {}

@[simp] theorem slot_empty (p : Place) : Summary.slot {} p = {} := by
  cases p <;> simp [slot]

@[simp] theorem slot_append (s t : Summary) (p : Place) :
    (s.append t).slot p = (s.slot p).append (t.slot p) := by
  cases p <;> simp [slot, append, getD_mergeSlots]

@[simp] theorem slot_either (s t : Summary) (p : Place) :
    (s.either t).slot p = (s.slot p).either (t.slot p) := by
  cases p <;> simp [slot, either, getD_mergeSlots]

@[simp] theorem slot_repeated (atLeastOnce : Bool) (s : Summary) (p : Place) :
    (s.repeated atLeastOnce).slot p = (s.slot p).repeated atLeastOnce := by
  cases p with
  | field name =>
    simp only [slot, repeated, Std.ExtTreeMap.getD_eq_getD_getElem?, Std.ExtTreeMap.getElem?_map]
    cases s.fields[name]? <;> simp
  | children | anywhere => rfl
  | nowhere => simp [slot]

/-- What a field holds is all that its content adds; the other fields stay as they are. -/
@[simp] theorem slot_inField (name : String) (s : Summary) (p : Place) :
    (s.inField name).slot p = s.slot (p.inside name) := by
  cases p with
  | field other =>
    simp only [slot, inField, Place.inside, Std.ExtTreeMap.getD_insert, Std.compare_eq_iff_eq]
    by_cases h : name = other <;> simp [h]
  | children | anywhere | nowhere => rfl

@[simp] theorem slot_ofNode_anywhere (ref : NodeRef) : (ofNode ref).slot .anywhere = .one ref := by
  obtain ⟨kind, named⟩ := ref
  cases named <;> rfl

@[simp] theorem slot_ofNode_children (ref : NodeRef) :
    (ofNode ref).slot .children = if ref.named then .one ref else {} := by
  obtain ⟨kind, named⟩ := ref
  cases named <;> rfl

@[simp] theorem slot_ofNode_field (ref : NodeRef) (name : String) :
    (ofNode ref).slot (.field name) = {} := by
  obtain ⟨kind, named⟩ := ref
  cases named <;> simp [ofNode, Summary.named, anonymous, slot]

/-- A node fills a slot alone, or leaves it empty. -/
theorem slot_ofNode (ref : NodeRef) (p : Place) :
    (ofNode ref).slot p = {} ∨ (ofNode ref).slot p = .one ref := by
  cases p with
  | field name => exact .inl (slot_ofNode_field ref name)
  | children =>
    rw [slot_ofNode_children]
    cases ref.named with
    | true => exact .inr rfl
    | false => exact .inl rfl
  | anywhere => exact .inr (slot_ofNode_anywhere ref)
  | nowhere => exact .inl rfl

end Summary

/-! ## What a slot says about words -/

/-- A slot tells the truth about a set of words, and all of it. -/
structure Slot.Describes (s : Slot) (words : Language NodeRef) : Prop where
  inhabited : ∃ w, w ∈ words
  possible : s.quantity.possible = true ↔ ∃ w ∈ words, w ≠ []
  required : s.quantity.required = true ↔ ∀ w ∈ words, w ≠ []
  multiple : s.quantity.multiple = true ↔ ∃ w ∈ words, 2 ≤ w.length
  types : ∀ kind, kind ∈ s.types ↔ ∃ w ∈ words, kind ∈ w

/-- The words that are several words of a language in a row, at least one if so demanded. -/
def iterations (atLeastOnce : Bool) (words : Language NodeRef) : Language NodeRef :=
  {w | ∃ parts : List (List NodeRef),
    (∀ part ∈ parts, part ∈ words) ∧ (atLeastOnce = true → parts ≠ []) ∧ parts.flatten = w}

theorem mem_word {w v : List NodeRef} : w ∈ ({v} : Language NodeRef) ↔ w = v := Iff.rfl

namespace Slot.Describes
variable {s t : Slot} {words others : Language NodeRef}

theorem empty : Slot.Describes {} 1 where
  inhabited := ⟨[], Language.nil_mem_one⟩
  possible := by simp
  required := by simp
  multiple := by simp
  types := by simp

theorem one (ref : NodeRef) : (Slot.one ref).Describes {[ref]} where
  inhabited := ⟨[ref], rfl⟩
  possible := by simp [Slot.one, Quantity.one, mem_word]
  required := by simp [Slot.one, Quantity.one, mem_word]
  multiple := by simp [Slot.one, Quantity.one, mem_word]
  types kind := by
    rw [Slot.one, Std.ExtTreeSet.mem_ofList]
    simp [mem_word]

theorem append (hs : s.Describes words) (ht : t.Describes others) :
    (s.append t).Describes (words * others) := by
  obtain ⟨u₀, hu₀⟩ := hs.inhabited
  obtain ⟨v₀, hv₀⟩ := ht.inhabited
  constructor
  case inhabited => exact ⟨u₀ ++ v₀, Language.append_mem_mul hu₀ hv₀⟩
  case possible =>
    simp only [Slot.append, Quantity.append, Bool.or_eq_true, hs.possible, ht.possible]
    constructor
    · intro h
      rcases h with ⟨u, hu, hne⟩ | ⟨v, hv, hne⟩
      · exact ⟨u ++ v₀, Language.append_mem_mul hu hv₀, by simp [hne]⟩
      · exact ⟨u₀ ++ v, Language.append_mem_mul hu₀ hv, by simp [hne]⟩
    · intro ⟨w, hw, hne⟩
      obtain ⟨u, hu, v, hv, rfl⟩ := Language.mem_mul.mp hw
      by_cases hnil : u = []
      · exact .inr ⟨v, hv, by simpa [hnil] using hne⟩
      · exact .inl ⟨u, hu, hnil⟩
  case required =>
    simp only [Slot.append, Quantity.append, Bool.or_eq_true, hs.required, ht.required]
    constructor
    · intro h w hw
      obtain ⟨u, hu, v, hv, rfl⟩ := Language.mem_mul.mp hw
      rcases h with h | h
      · simp [h u hu]
      · simp [h v hv]
    · intro h
      -- an empty word on either side would give an empty word of both
      by_contra hc
      simp only [not_or, not_forall, not_not] at hc
      obtain ⟨⟨u, hu, rfl⟩, ⟨v, hv, rfl⟩⟩ := hc
      exact h _ (Language.append_mem_mul hu hv) rfl
  case multiple =>
    simp only [Slot.append, Quantity.append, Bool.or_eq_true, Bool.and_eq_true, hs.possible,
      ht.possible, hs.multiple, ht.multiple]
    constructor
    · intro h
      rcases h with (⟨u, hu, h2⟩ | ⟨v, hv, h2⟩) | ⟨⟨u, hu, hnu⟩, ⟨v, hv, hnv⟩⟩
      · exact ⟨u ++ v₀, Language.append_mem_mul hu hv₀, by simp; omega⟩
      · exact ⟨u₀ ++ v, Language.append_mem_mul hu₀ hv, by simp; omega⟩
      · have := List.length_pos_iff.mpr hnu
        have := List.length_pos_iff.mpr hnv
        exact ⟨u ++ v, Language.append_mem_mul hu hv, by simp; omega⟩
    · intro ⟨w, hw, h2⟩
      obtain ⟨u, hu, v, hv, rfl⟩ := Language.mem_mul.mp hw
      rw [List.length_append] at h2
      by_cases hnu : u = []
      · exact .inl (.inr ⟨v, hv, by simpa [hnu] using h2⟩)
      · by_cases hnv : v = []
        · exact .inl (.inl ⟨u, hu, by simpa [hnv] using h2⟩)
        · exact .inr ⟨⟨u, hu, hnu⟩, ⟨v, hv, hnv⟩⟩
  case types =>
    intro kind
    simp only [Slot.append, Std.ExtTreeSet.mem_union_iff, hs.types, ht.types]
    constructor
    · intro h
      rcases h with ⟨u, hu, hk⟩ | ⟨v, hv, hk⟩
      · exact ⟨u ++ v₀, Language.append_mem_mul hu hv₀, by simp [hk]⟩
      · exact ⟨u₀ ++ v, Language.append_mem_mul hu₀ hv, by simp [hk]⟩
    · intro ⟨w, hw, hk⟩
      obtain ⟨u, hu, v, hv, rfl⟩ := Language.mem_mul.mp hw
      rcases List.mem_append.mp hk with hk | hk
      · exact .inl ⟨u, hu, hk⟩
      · exact .inr ⟨v, hv, hk⟩

theorem either (hs : s.Describes words) (ht : t.Describes others) :
    (s.either t).Describes (words + others) := by
  obtain ⟨u₀, hu₀⟩ := hs.inhabited
  constructor
  case inhabited => exact ⟨u₀, .inl hu₀⟩
  case possible =>
    simp only [Slot.either, Quantity.either, Bool.or_eq_true, hs.possible, ht.possible,
      Language.mem_add, or_and_right, exists_or]
  case required =>
    simp only [Slot.either, Quantity.either, Bool.and_eq_true, hs.required, ht.required,
      Language.mem_add, or_imp, forall_and]
  case multiple =>
    simp only [Slot.either, Quantity.either, Bool.or_eq_true, hs.multiple, ht.multiple,
      Language.mem_add, or_and_right, exists_or]
  case types =>
    intro kind
    simp only [Slot.either, Std.ExtTreeSet.mem_union_iff, hs.types, ht.types, Language.mem_add,
      or_and_right, exists_or]

theorem repeated (hs : s.Describes words) (atLeastOnce : Bool) :
    (s.repeated atLeastOnce).Describes (iterations atLeastOnce words) := by
  have single : ∀ w ∈ words, w ∈ iterations atLeastOnce words :=
    fun w hw => ⟨[w], by simpa using hw, by simp, by simp⟩
  have double : ∀ w ∈ words, w ++ w ∈ iterations atLeastOnce words :=
    fun w hw => ⟨[w, w], by simpa using hw, by simp, by simp⟩
  obtain ⟨u₀, hu₀⟩ := hs.inhabited
  constructor
  case inhabited => exact ⟨u₀, single u₀ hu₀⟩
  case possible =>
    rw [Slot.repeated, Quantity.repeated, hs.possible]
    constructor
    · intro ⟨w, hw, hne⟩
      exact ⟨w, single w hw, hne⟩
    · intro ⟨_, ⟨parts, hp, _, he⟩, hne⟩
      rw [← he] at hne
      obtain ⟨part, hm, hne⟩ := List.flatten_ne_nil_iff.mp hne
      exact ⟨part, hp part hm, hne⟩
  case required =>
    rw [Slot.repeated, Quantity.repeated, Bool.and_eq_true, hs.required]
    constructor
    · intro ⟨h, once⟩ w ⟨parts, hp, hne, he⟩
      obtain ⟨part, rest, rfl⟩ := List.exists_cons_of_ne_nil (hne once)
      simp [← he, h part (hp part (by simp))]
    · intro h
      refine ⟨fun w hw => h w (single w hw), ?_⟩
      by_contra hno
      exact h [] ⟨[], by simp, fun once => absurd once hno, rfl⟩ rfl
  case multiple =>
    rw [Slot.repeated, Quantity.repeated, hs.possible]
    constructor
    · intro ⟨w, hw, hne⟩
      have := List.length_pos_iff.mpr hne
      exact ⟨w ++ w, double w hw, by simp; omega⟩
    · intro ⟨w, ⟨parts, hp, _, he⟩, h2⟩
      have hne : parts.flatten ≠ [] := by
        intro h
        simp [← he, h] at h2
      obtain ⟨part, hm, hne⟩ := List.flatten_ne_nil_iff.mp hne
      exact ⟨part, hp part hm, hne⟩
  case types =>
    intro kind
    rw [Slot.repeated, hs.types]
    constructor
    · intro ⟨w, hw, hk⟩
      exact ⟨w, single w hw, hk⟩
    · intro ⟨_, ⟨parts, hp, _, he⟩, hk⟩
      rw [← he] at hk
      obtain ⟨part, hm, hk⟩ := List.mem_flatten.mp hk
      exact ⟨part, hp part hm, hk⟩

section members
variable {α : Type} {summaries : α → Summary} {languages : α → Language NodeRef} {p : Place}

/-- A sequence says of its members in a row what each says of itself. -/
theorem sequence {items : List α}
    (h : ∀ item ∈ items, ((summaries item).slot p).Describes (languages item)) :
    ((Summary.sequence (items.map summaries)).slot p).Describes (items.map languages).prod := by
  induction items with
  | nil => simpa [Summary.sequence] using empty
  | cons item rest ih =>
    have first := h item (by simp)
    have others := ih fun i hi => h i (by simp [hi])
    simpa [Summary.sequence] using first.append others

/-- A choice says of any of its members what each says of itself. -/
theorem choice {items : List α} (hne : items ≠ [])
    (h : ∀ item ∈ items, ((summaries item).slot p).Describes (languages item)) :
    ((Summary.choice (items.map summaries)).slot p).Describes (items.map languages).sum := by
  induction items with
  | nil => exact absurd rfl hne
  | cons item rest ih =>
    have first := h item (by simp)
    cases rest with
    | nil => simpa [Summary.choice] using first
    | cons item' rest =>
      have others := ih (by simp) fun i hi => h i (by simp [hi])
      simpa [Summary.choice] using first.either others

end members
end Slot.Describes
end GrammarArtifact
