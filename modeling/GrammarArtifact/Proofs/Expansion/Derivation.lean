import GrammarArtifact.Proofs.Expansion.Slot

/-! # Expansions of rule bodies

An expansion of a body is a word of the nodes that it may show, each with the
fields that hold it. Hidden rules are replaced by their bodies, either as often as
they are met, or only outside of themselves: a hidden rule that is met inside
itself then adds nothing. The words of kinds that the expansions have at a place
follow the shape of the rule, by the operations on languages that slots describe. -/

namespace GrammarArtifact

/-- A node of an expansion, with the names of the fields that hold it. -/
structure PlacedNode where
  ref : NodeRef
  fields : List String
  deriving DecidableEq, Repr

def PlacedNode.inField (name : String) (n : PlacedNode) : PlacedNode :=
  { n with fields := name :: n.fields }

namespace Place

def holds : Place → PlacedNode → Bool
  | .field name, n => n.fields.contains name
  | .children, n => n.ref.named && n.fields.isEmpty
  | .anywhere, _ => true
  | .nowhere, _ => false

/-- The kinds of the nodes at a place, in the order of the word. -/
def kinds (p : Place) (w : List PlacedNode) : List NodeRef := (w.filter p.holds).map PlacedNode.ref

theorem holds_inField (p : Place) (name : String) (n : PlacedNode) :
    p.holds (n.inField name) = (p.inside name).holds n := by
  cases p with
  | field other =>
    by_cases h : name = other
    · simp [holds, inside, PlacedNode.inField, h]
    · simp [holds, inside, PlacedNode.inField, h, Ne.symm h]
  | children | anywhere | nowhere => simp [holds, inside, PlacedNode.inField]

@[simp] theorem kinds_nil (p : Place) : p.kinds [] = [] := rfl

@[simp] theorem kinds_append (p : Place) (u v : List PlacedNode) :
    p.kinds (u ++ v) = p.kinds u ++ p.kinds v := by
  simp [kinds]

theorem kinds_flatten (p : Place) (parts : List (List PlacedNode)) :
    p.kinds parts.flatten = (parts.map p.kinds).flatten := by
  induction parts with
  | nil => rfl
  | cons part rest ih => simp [ih]

@[simp] theorem kinds_map_inField (p : Place) (name : String) (w : List PlacedNode) :
    p.kinds (w.map (·.inField name)) = (p.inside name).kinds w := by
  have same : p.holds ∘ PlacedNode.inField name = (p.inside name).holds :=
    funext fun n => holds_inField p name n
  unfold kinds
  rw [List.filter_map, List.map_map, same]
  rfl

theorem mem_kinds {p : Place} {w : List PlacedNode} {kind : NodeRef} :
    kind ∈ p.kinds w ↔ ∃ n ∈ w, p.holds n = true ∧ n.ref = kind := by
  simp [kinds, and_assoc]

end Place

/-- How often a hidden rule is replaced by its body. -/
inductive Unfolding where
  /-- As often as it is met. -/
  | free
  /-- Only outside of itself. -/
  | cut
  deriving DecidableEq, Repr

/-- Whether a hidden rule adds nothing inside of the given rules. -/
def Unfolding.Stops : Unfolding → List String → String → Prop
  | .free, _, _ => False
  | .cut, inside, name => name ∈ inside

/-- The words that a shape may stand for inside of the given hidden rules. -/
inductive Grammar.Derives (g : Grammar) (u : Unfolding) :
    List String → Shape → List PlacedNode → Prop
  | nothing {inside} : Derives g u inside .nothing []
  | node {inside ref} : Derives g u inside (.node ref) [⟨ref, []⟩]
  | stop {inside name body} : u.Stops inside name → Derives g u inside (.hidden name body) []
  | unfold {inside name body w} : ¬ u.Stops inside name →
      Derives g u (name :: inside) (g.shape body) w → Derives g u inside (.hidden name body) w
  | seqNil {inside} : Derives g u inside (.seq []) []
  | seqCons {inside m ms v w} : Derives g u inside (g.shape m) v →
      Derives g u inside (.seq ms) w → Derives g u inside (.seq (m :: ms)) (v ++ w)
  | choiceNil {inside} : Derives g u inside (.choice []) []
  | choice {inside m ms w} : m ∈ ms → Derives g u inside (g.shape m) w →
      Derives g u inside (.choice ms) w
  | repeated {inside atLeastOnce c parts} :
      (∀ part ∈ parts, Derives g u inside (g.shape c) part) →
      (atLeastOnce = true → parts ≠ []) →
      Derives g u inside (.repeated atLeastOnce c) parts.flatten
  | field {inside name c w} : Derives g u inside (g.shape c) w →
      Derives g u inside (.field name c) (w.map (·.inField name))
  | wrapper {inside c w} : Derives g u inside (g.shape c) w → Derives g u inside (.wrapper c) w

namespace Grammar

/-- A word is an expansion of a body, hidden rules replaced by their bodies as often as needed. -/
def Expands (g : Grammar) (body : Rule) (w : List PlacedNode) : Prop :=
  g.Derives .free [] (g.shape body) w

/-- A word is an expansion of a body in which a hidden rule inside itself adds nothing. -/
def CutExpands (g : Grammar) (body : Rule) (w : List PlacedNode) : Prop :=
  g.Derives .cut [] (g.shape body) w

/-! ## The words of kinds at a place -/

/-- The words of kinds that a shape may have at a place. -/
def words (g : Grammar) (u : Unfolding) (inside : List String) (s : Shape) (p : Place) :
    Language NodeRef :=
  {kinds | ∃ w, g.Derives u inside s w ∧ p.kinds w = kinds}

variable {g : Grammar} {u : Unfolding} {inside : List String} {s : Shape} {p : Place}

theorem exists_words {P : List NodeRef → Prop} : (∃ kinds ∈ g.words u inside s p, P kinds) ↔
    ∃ w, g.Derives u inside s w ∧ P (p.kinds w) := by
  constructor
  · intro ⟨_, ⟨w, hw, he⟩, hk⟩
    exact ⟨w, hw, he ▸ hk⟩
  · intro ⟨w, hw, hk⟩
    exact ⟨p.kinds w, ⟨w, hw, rfl⟩, hk⟩

theorem forall_words {P : List NodeRef → Prop} : (∀ kinds ∈ g.words u inside s p, P kinds) ↔
    ∀ w, g.Derives u inside s w → P (p.kinds w) := by
  constructor
  · intro h w hw
    exact h _ ⟨w, hw, rfl⟩
  · intro h _ ⟨w, hw, he⟩
    exact he ▸ h w hw

/-- Shapes that derive the same words have the same words of kinds. -/
theorem words_congr {inside' : List String} {s' : Shape}
    (h : ∀ w, g.Derives u inside s w ↔ g.Derives u inside' s' w) :
    g.words u inside s p = g.words u inside' s' p := by
  ext kinds
  exact exists_congr fun w => and_congr_left fun _ => h w

/-- A shape that adds nothing has the empty word alone. -/
theorem words_eq_one (h : ∀ w, g.Derives u inside s w ↔ w = []) : g.words u inside s p = 1 := by
  ext kinds
  constructor
  · intro ⟨w, hw, he⟩
    rw [(h w).mp hw] at he
    exact he.symm
  · intro he
    exact ⟨[], (h []).mpr rfl, he.symm⟩

theorem words_nothing : g.words u inside .nothing p = 1 := by
  apply words_eq_one
  intro w
  exact ⟨fun h => by cases h; rfl, fun h => h ▸ .nothing⟩

theorem words_node {ref : NodeRef} :
    g.words u inside (.node ref) p = {p.kinds [⟨ref, []⟩]} := by
  ext kinds
  constructor
  · intro ⟨_, h, he⟩
    cases h
    exact he.symm
  · intro he
    exact ⟨_, .node, he.symm⟩

theorem words_stop {name : String} {body : Rule} (stops : u.Stops inside name) :
    g.words u inside (.hidden name body) p = 1 := by
  apply words_eq_one
  intro w
  constructor
  · intro h
    cases h with
    | stop _ => rfl
    | unfold go _ => exact absurd stops go
  · intro h
    exact h ▸ .stop stops

theorem words_unfold {name : String} {body : Rule} (go : ¬ u.Stops inside name) :
    g.words u inside (.hidden name body) p = g.words u (name :: inside) (g.shape body) p := by
  apply words_congr
  intro w
  constructor
  · intro h
    cases h with
    | stop stops => exact absurd stops go
    | unfold _ h => exact h
  · exact .unfold go

theorem words_seq (members : List Rule) : g.words u inside (.seq members) p =
    (members.map fun m => g.words u inside (g.shape m) p).prod := by
  induction members with
  | nil =>
    apply words_eq_one
    intro w
    exact ⟨fun h => by cases h; rfl, fun h => h ▸ .seqNil⟩
  | cons m ms ih =>
    rw [List.map_cons, List.prod_cons, ← ih]
    ext kinds
    rw [Language.mem_mul]
    constructor
    · intro ⟨_, h, he⟩
      cases h with
      | @seqCons _ _ _ v w hv hw => exact ⟨_, ⟨v, hv, rfl⟩, _, ⟨w, hw, rfl⟩, by simp [← he]⟩
    · intro ⟨_, ⟨v, hv, he⟩, _, ⟨w, hw, he'⟩, happ⟩
      exact ⟨v ++ w, .seqCons hv hw, by simp [← happ, he, he']⟩

theorem words_choice_nil : g.words u inside (.choice []) p = 1 := by
  apply words_eq_one
  intro w
  constructor
  · intro h
    cases h with
    | choiceNil => rfl
    | choice hm _ => cases hm
  · intro h
    exact h ▸ .choiceNil

theorem mem_sum_map {languages : Rule → Language NodeRef} {members : List Rule}
    {kinds : List NodeRef} :
    kinds ∈ (members.map languages).sum ↔ ∃ m ∈ members, kinds ∈ languages m := by
  induction members with
  | nil => simp [Language.notMem_zero]
  | cons m ms ih => simp [Language.mem_add, ih]

theorem words_choice {members : List Rule} (hne : members ≠ []) :
    g.words u inside (.choice members) p =
      (members.map fun m => g.words u inside (g.shape m) p).sum := by
  ext kinds
  rw [mem_sum_map]
  constructor
  · intro ⟨w, h, he⟩
    cases h with
    | choiceNil => exact absurd rfl hne
    | choice hm h => exact ⟨_, hm, w, h, he⟩
  · intro ⟨m, hm, w, h, he⟩
    exact ⟨w, .choice hm h, he⟩

/-- Words that each come from a derivation come from a list of derivations. -/
theorem exists_parts {s : Shape} {parts : List (List NodeRef)}
    (h : ∀ part ∈ parts, part ∈ g.words u inside s p) :
    ∃ ws : List (List PlacedNode), (∀ w ∈ ws, g.Derives u inside s w) ∧ ws.map p.kinds = parts := by
  induction parts with
  | nil => exact ⟨[], by simp, rfl⟩
  | cons part rest ih =>
    obtain ⟨w, hw, rfl⟩ := h part (by simp)
    obtain ⟨ws, hws, rfl⟩ := ih fun part hm => h part (by simp [hm])
    exact ⟨w :: ws, by simpa using ⟨hw, hws⟩, rfl⟩

theorem words_repeated {atLeastOnce : Bool} {c : Rule} :
    g.words u inside (.repeated atLeastOnce c) p =
      iterations atLeastOnce (g.words u inside (g.shape c) p) := by
  ext kinds
  constructor
  · intro ⟨_, h, he⟩
    cases h with
    | @repeated _ _ _ parts hparts hne =>
      refine ⟨parts.map p.kinds, ?_, by simpa using hne, (p.kinds_flatten parts).symm.trans he⟩
      intro part hm
      obtain ⟨w, hw, hpart⟩ := List.mem_map.mp hm
      exact ⟨w, hparts w hw, hpart⟩
  · intro ⟨parts, hparts, hne, he⟩
    obtain ⟨ws, hws, hmap⟩ := exists_parts hparts
    subst hmap
    exact ⟨ws.flatten, .repeated hws (by simpa using hne), (p.kinds_flatten ws).trans he⟩

theorem words_field {name : String} {c : Rule} : g.words u inside (.field name c) p =
    g.words u inside (g.shape c) (p.inside name) := by
  ext kinds
  constructor
  · intro ⟨_, h, he⟩
    cases h with
    | @field _ _ _ w h => exact ⟨w, h, by simpa using he⟩
  · intro ⟨w, h, he⟩
    exact ⟨_, .field h, by simpa using he⟩

theorem words_wrapper {c : Rule} :
    g.words u inside (.wrapper c) p = g.words u inside (g.shape c) p :=
  words_congr fun _ => ⟨fun h => by cases h; assumption, .wrapper⟩

end Grammar
end GrammarArtifact
