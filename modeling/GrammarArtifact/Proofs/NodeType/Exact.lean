import Mathlib
import GrammarArtifact.Proofs.Expansion.Exact
import GrammarArtifact.Proofs.Expansion.Reentry
import GrammarArtifact.Proofs.NodeType.Entry

/-! # How many nodes an entry announces

The entry of a visible rule is exact for the expansions in which a hidden rule adds
nothing inside itself. If no hidden rule is expanded inside itself these are all
expansions. Otherwise the entry may promise too little: it may deny a slot a second
node that only a hidden rule inside itself can add. -/

namespace GrammarArtifact

/-- A type tells of each slot how many nodes, and which kinds, the words of a language have in
it. Of what it is silent about the words have none. -/
structure NodeType.Exact (t : NodeType) (expands : List PlacedNode → Prop) : Prop where
  required : ∀ p info, t.slot? p = some info →
    (info.required = true ↔ ∀ w, expands w → p.kinds w ≠ [])
  multiple : ∀ p info, t.slot? p = some info →
    (info.multiple = true ↔ ∃ w, expands w ∧ 2 ≤ (p.kinds w).length)
  types : ∀ p info, t.slot? p = some info →
    ∀ kind, kind ∈ info.types ↔ ∃ w, expands w ∧ kind ∈ p.kinds w
  silent : ∀ p, p.IsSlot → t.slot? p = none → ∀ w, expands w → p.kinds w = []

namespace Grammar
variable {g : Grammar} {name : String} {body : Rule}

/-- The type made from a summary is exact for the expansions that the summary describes. -/
theorem nodeType_exact_cut (g : Grammar) (name : String) (body : Rule) :
    ((g.summarize [] body).nodeType name).Exact (g.CutExpands body) := by
  have describes := g.summarize_describes [] body
  constructor
  case required =>
    intro p info h
    rw [Summary.eq_info_of_slot? h, Slot.info, (describes p).required, forall_words]
    rfl
  case multiple =>
    intro p info h
    rw [Summary.eq_info_of_slot? h, Slot.info, (describes p).multiple, exists_words]
    rfl
  case types =>
    intro p info h kind
    rw [Summary.eq_info_of_slot? h, Slot.info, Std.ExtTreeSet.mem_toList, (describes p).types,
      exists_words]
    rfl
  case silent =>
    intro p hp h w hw
    have hno := Summary.not_possible_of_slot? hp h
    by_contra hne
    have := (describes p).possible.mpr (exists_words.mpr ⟨w, hw, hne⟩)
    rw [hno] at this
    cases this

theorem nodeType_of_not_lexical (hl : body.isLexical = false) :
    g.nodeType name body = (g.summarize [] body).nodeType name := by
  simp [nodeType, hl]

theorem entry?_of_not_lexical (hr : g.rule? name = some body) (hv : g.isHidden name = false)
    (hl : body.isLexical = false) :
    g.entry? name = some ((g.summarize [] body).nodeType name) := by
  rw [entry?_of_rule hr hv, nodeType_of_not_lexical hl]

/-- The entry of a rule that is a token is silent about every place. -/
theorem slot?_of_lexical {p : Place} (hl : body.isLexical = true) :
    (g.nodeType name body).slot? p = none := by
  cases p <;> simp [nodeType, hl, NodeType.slot?, NodeType.leaf, NodeType.field?]

/-- **Entries are exact where no hidden rule is expanded inside itself.** The entry of a visible
rule then tells of every slot whether all expansions have a node in it, whether one has two, and
of which kinds they are. -/
theorem entry_exact (hr : g.rule? name = some body) (hv : g.isHidden name = false)
    (hl : body.isLexical = false) (hn : g.NeverReenters body) :
    ∃ t, g.entry? name = some t ∧ t.Exact (g.Expands body) := by
  refine ⟨_, entry?_of_not_lexical hr hv hl, ?_⟩
  have same : g.Expands body = g.CutExpands body := funext fun w => propext hn.expands_iff
  rw [same]
  exact g.nodeType_exact_cut name body

def callBody : Rule := .seq [.field "function" (.symbol "name"), .symbol "_arguments"]

def argumentsBody : Rule := .seq [.literal "(", .repeated (.symbol "name"), .literal ")"]

/-- A grammar of calls, with the arguments in a hidden rule. -/
def calls : Grammar where
  name := "calls"
  rules := .ofList
    [("_arguments", argumentsBody), ("call", callBody), ("name", Rule.pattern "[a-z]+")]

theorem calls_neverReenters : calls.NeverReenters callBody := by
  have word : calls.shape (.symbol "name") = .node ⟨"name", true⟩ := by cbv
  have hidden : calls.shape (.symbol "_arguments") = .hidden "_arguments" argumentsBody := by
    cbv
  have leaf : ∀ inside ref, calls.Fresh inside (.node ref) := by
    intro inside ref
    exact (fresh_parts rfl).mpr (by simp [Shape.parts])
  have names : ∀ inside, calls.Fresh inside (.repeated false (.symbol "name")) := by
    intro inside
    refine (fresh_parts rfl).mpr (List.forall_mem_singleton.mpr ?_)
    rw [word]
    exact leaf inside _
  have arguments : calls.Fresh ["_arguments"] (calls.shape argumentsBody) := by
    refine (fresh_parts rfl).mpr (List.forall_mem_cons.mpr ⟨leaf _ ⟨"(", false⟩, ?_⟩)
    refine List.forall_mem_cons.mpr ⟨names _, ?_⟩
    exact List.forall_mem_singleton.mpr (leaf _ ⟨")", false⟩)
  refine neverReenters_iff_fresh.mpr ((fresh_parts rfl).mpr (List.forall_mem_cons.mpr ⟨?_, ?_⟩))
  · refine fresh_field.mpr ?_
    show calls.Fresh [] (calls.shape (.symbol "name"))
    rw [word]
    exact leaf _ _
  · refine List.forall_mem_singleton.mpr ?_
    rw [hidden]
    exact fresh_hidden.mpr ⟨by simp, arguments⟩

theorem calls_entry_exact : ∃ t, calls.entry? "call" = some t ∧ t.Exact (calls.Expands callBody) :=
  entry_exact (by cbv) (by cbv) rfl calls_neverReenters

/-- **What a slot that is not multiple says.** A slot is multiple just if an expansion in which a
hidden rule inside itself adds nothing has two nodes in it. A slot that is not multiple has at most
one node in every expansion if no hidden rule inside itself shows a node there. -/
theorem entry_multiple_iff (hr : g.rule? name = some body) (hv : g.isHidden name = false) :
    ∃ t, g.entry? name = some t ∧ ∀ p info, t.slot? p = some info →
      (info.multiple = true ↔ ∃ w, g.CutExpands body w ∧ 2 ≤ (p.kinds w).length) ∧
      (g.NeverReentersAt body p → info.multiple = false →
        ∀ w, g.Expands body w → (p.kinds w).length ≤ 1) := by
  refine ⟨_, entry?_of_rule hr hv, ?_⟩
  intro p info h
  cases hl : body.isLexical with
  | true =>
    rw [slot?_of_lexical hl] at h
    cases h
  | false =>
    rw [nodeType_of_not_lexical hl] at h
    have multiple := (g.nodeType_exact_cut name body).multiple p info h
    refine ⟨multiple, ?_⟩
    intro fresh hm w hw
    obtain ⟨w', hw', same⟩ := hw.cut_of_freshAt fresh.freshAt
    by_contra hlen
    rw [multiple.mpr ⟨w', hw', by rw [same]; omega⟩] at hm
    cases hm

def itemsBody : Rule := .choice [.symbol "item", .seq [.symbol "item", .symbol "_items"]]

/-- A grammar of lists, the items of which are a hidden rule that goes on with itself. -/
def lists : Grammar where
  name := "lists"
  rules := .ofList
    [("_items", itemsBody), ("item", Rule.pattern "[a-z]+"), ("list", Rule.symbol "_items")]

theorem lists_rule : lists.rule? "list" = some (.symbol "_items") := by cbv

theorem lists_visible : lists.isHidden "list" = false := by cbv

theorem shape_items : lists.shape (.symbol "_items") = .hidden "_items" itemsBody := by cbv

theorem shape_item : lists.shape (.symbol "item") = .node ⟨"item", true⟩ := by cbv

/-- One list counts at most one item, since the items after the first are cut off. -/
theorem lists_children : ((lists.summarize [] (.symbol "_items")).slot .children).quantity =
    ⟨true, true, false⟩ := by
  have body : lists.shape itemsBody =
    .choice [.symbol "item", .seq [.symbol "item", .symbol "_items"]] := rfl
  have row : lists.shape (.seq [.symbol "item", .symbol "_items"]) =
    .seq [.symbol "item", .symbol "_items"] := rfl
  simp [summarize_eq, shape_items, shape_item, body, row, Summary.ofShape, unfolded,
    Summary.choice, Summary.sequence]
  rfl

def itemNode : PlacedNode := ⟨⟨"item", true⟩, []⟩

theorem lists_expands_two : lists.Expands (.symbol "_items") [itemNode, itemNode] := by
  have one : ∀ inside, lists.Derives .free inside (lists.shape (.symbol "item")) [itemNode] := by
    intro inside
    rw [shape_item]
    exact .node
  unfold Expands
  rw [shape_items]
  refine .unfold id (.choice (List.mem_cons_of_mem _ (List.mem_singleton.mpr rfl)) ?_)
  refine .seqCons (one _) (.seqCons (v := [itemNode]) ?_ .seqNil)
  rw [shape_items]
  exact .unfold id (.choice List.mem_cons_self (one _))

/-- The items of a list are not multiple, though there are lists of two items. -/
theorem lists_not_multiple : ∃ t, lists.entry? "list" = some t ∧
    ∃ info, t.children = some info ∧ info.multiple = false ∧
      (∃ w, lists.Expands (.symbol "_items") w ∧ 2 ≤ (Place.children.kinds w).length) ∧
      ¬ ∃ w, lists.CutExpands (.symbol "_items") w ∧ 2 ≤ (Place.children.kinds w).length := by
  obtain ⟨t, ht, h⟩ := entry_multiple_iff lists_rule lists_visible
  have same := Option.some.inj (ht.symm.trans (entry?_of_not_lexical lists_rule lists_visible rfl))
  have children : t.children =
      some ((lists.summarize [] (.symbol "_items")).slot .children).info := by
    rw [same]
    exact Summary.children_of_possible (by rw [lists_children])
  have single : ((lists.summarize [] (.symbol "_items")).slot .children).info.multiple = false := by
    rw [Slot.info, lists_children]
  refine ⟨t, ht, _, children, single, ⟨_, lists_expands_two, by decide⟩, ?_⟩
  intro two
  have := (h .children _ children).1.mpr two
  rw [single] at this
  cases this

end Grammar
end GrammarArtifact
