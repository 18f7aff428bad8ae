import Mathlib.Tactic.FinCases
import GrammarArtifact.Grammar.Reader
import GrammarArtifact.Proofs.Rule.Decoding

/-! # What a grammar is made of

The tree of a document says which grammar it is. The reader keeps the rules of a
document in the order in which they stand, and only afterwards makes the map of them, so
there are two layouts: one of documents, which the reader follows, and one of grammars,
which is the same but for the rules. -/

namespace GrammarArtifact
open Json Json.Reader

namespace Grammar

def names? (room : Nat) : Tree → Option (List String) := Tree.list? room Tree.text?

def rules? (room : Nat) : Tree → Option (List Rule) := Tree.list? room (Rule.ofTree? (room - 1))

def headProperties : List (Property Grammar) := [
  ⟨"$schema", false, Option String, Tree.optional? Tree.text?, fun g x => { g with schema := x }⟩,
  ⟨"name", true, String, Tree.text?, fun g x => { g with name := x }⟩,
  ⟨"inherits", false, Option String, Tree.optional? Tree.text?,
    fun g x => { g with inherits := x }⟩]

def tailProperties (room : Nat) : List (Property Grammar) := [
  ⟨"extras", false, Option (List Rule), Tree.optional? (rules? room),
    fun g x => { g with extras := x }⟩,
  ⟨"externals", false, Option (List Rule), Tree.optional? (rules? room),
    fun g x => { g with externals := x }⟩,
  ⟨"inline", false, Option (List String), Tree.optional? (names? room),
    fun g x => { g with inlined := x }⟩,
  ⟨"precedences", false, Option (List (List Rule)),
    Tree.optional? (Tree.list? room (rules? (room - 1))), fun g x => { g with precedences := x }⟩,
  ⟨"conflicts", false, Option (List (List String)),
    Tree.optional? (Tree.list? room (names? (room - 1))), fun g x => { g with conflicts := x }⟩,
  ⟨"reserved", false, Option (NameMap (List Rule)), fun v =>
    (Tree.optional? (Tree.dictionary? room (rules? (room - 1))) v).map (Option.map (.ofList ·)),
    fun g x => { g with reserved := x }⟩,
  ⟨"word", false, Option String, Tree.optional? Tree.text?, fun g x => { g with word := x }⟩,
  ⟨"supertypes", false, Option (List String), Tree.optional? (names? room),
    fun g x => { g with supertypes := x }⟩]

/-- The entries of the rules, in the order in which they stand. -/
def ruleEntries? (room : Nat) : Tree → Option (List (String × Rule)) :=
  Tree.dictionary? room (Rule.ofTree? (room - 1))

def layout (room : Nat) : Layout Grammar where
  blank := { name := "", rules := ∅ }
  properties := headProperties ++
    ⟨"rules", true, NameMap Rule, fun v => (ruleEntries? room v).map (.ofList ·),
      fun g x => { g with rules := x }⟩ :: tailProperties room

/-- The grammar that a tree is, if `room` brackets may be open inside each other. -/
def ofTree? (room : Nat) : Tree → Option Grammar := (layout (room - 1)).record? room

end Grammar

namespace Document

/-- A property of the grammar as one of the document. -/
def framed (p : Property Grammar) : Property Document :=
  ⟨p.name, p.required, p.Value, p.value?, fun d x => { d with frame := p.put d.frame x }⟩

def layout (room : Nat) : Layout Document where
  blank := { entries := [], frame := { name := "", rules := ∅ } }
  properties := Grammar.headProperties.map framed ++
    ⟨"rules", true, List (String × Rule), Grammar.ruleEntries? room,
      fun d x => { d with entries := x }⟩ :: (Grammar.tailProperties room).map framed

theorem depicts_framed {p : Property Grammar} {field : Json.Field Grammar} (h : p.Depicts field) :
    (framed p).Depicts (property field.name field.required field.read) where
  name := h.name
  required := h.required
  reads d := by
    have := (h.reads d.frame).map fun g => { d with frame := g }
    simp only [Property.assign?, Option.map_map] at this ⊢
    exact this

theorem describes_form (room : Nat) : (layout room).Describes (form room) := by
  have text : Reads optionalText (Tree.optional? Tree.text?) := reads_optional (reads_text _)
  have names (room : Nat) : Reads (readNames room) (Grammar.names? room) :=
    reads_list room (reads_text _)
  have rules (room : Nat) : Reads (readRules room) (Grammar.rules? room) :=
    reads_list room (Rule.reads_rule _)
  refine ⟨?_, rfl⟩
  exact .cons (depicts_framed (.put text)) <|
    .cons (depicts_framed (.put (reads_text _))) <|
    .cons (depicts_framed (.put text)) <|
    .cons (.put (reads_dictionary room (Rule.reads_rule _))) <|
    .cons (depicts_framed (.put (reads_optional (rules room)))) <|
    .cons (depicts_framed (.put (reads_optional (rules room)))) <|
    .cons (depicts_framed (.put (reads_optional (names room)))) <|
    .cons (depicts_framed (.put (reads_optional (reads_list room (rules _))))) <|
    .cons (depicts_framed (.put (reads_optional (reads_list room (names _))))) <|
    .cons (depicts_framed <| .putMap (reads_optional (reads_dictionary room (rules _)))
      fun _ => rfl) <|
    .cons (depicts_framed (.put text)) <|
    .cons (depicts_framed (.put (reads_optional (names room)))) .nil

/-- A property that is not that of the rules does not see them. -/
theorem seenAs_framed {p : Property Grammar}
    (apart : ∀ g x rules, { p.put g x with rules := rules } = p.put { g with rules := rules } x) :
    (framed p).SeenAs grammar p where
  name := rfl
  required := rfl
  assign d v := by
    unfold Property.assign?
    rw [Option.map_map]
    congr 1
    funext x
    exact apart d.frame x _

theorem seenAs_rules {room : Nat} :
    (⟨"rules", true, List (String × Rule), Grammar.ruleEntries? room,
      fun d x => { d with entries := x }⟩ : Property Document).SeenAs grammar
    ⟨"rules", true, NameMap Rule, fun v => (Grammar.ruleEntries? room v).map (.ofList ·),
      fun g x => { g with rules := x }⟩ where
  name := rfl
  required := rfl
  assign d v := by
    simp only [Property.assign?, Option.map_map]
    rfl

/-- The grammar of the document that a tree is. -/
theorem grammar_record? (room : Nat) (v : Tree) :
    ((layout (room - 1)).record? room v).map grammar = Grammar.ofTree? room v := by
  refine Layout.record?_seenAs ?_ rfl room v
  refine List.rel_append ?_ (.cons seenAs_rules ?_)
  · rw [List.forall₂_map_left_iff, List.forall₂_same]
    intro p hp
    refine seenAs_framed fun g x rules => ?_
    fin_cases hp <;> rfl
  · rw [List.forall₂_map_left_iff, List.forall₂_same]
    intro p hp
    refine seenAs_framed fun g x rules => ?_
    fin_cases hp <;> rfl

end Document

/-- **A text is read as a grammar if it spells a tree that is one.** -/
theorem Grammar.parse_eq_ok {text : String} {g : Grammar} : Grammar.parse text = .ok g ↔
    ∃ v : Tree, v.Spelled text ∧ Grammar.ofTree? Rule.roomInDocument v = some g := by
  have document (d : Document) : Document.parse text = .ok d ↔ ∃ v : Tree, v.Spelled text ∧
      (Document.layout (Rule.roomInDocument - 1)).record? Rule.roomInDocument v = some d := by
    rw [← (reads_record _ (Document.describes_form _)).parse]
    unfold Document.parse
    cases Reader.parse (record Rule.roomInDocument (Document.form (Rule.roomInDocument - 1))) text
      <;> simp [Except.mapError]
  constructor
  · intro h
    cases hd : Document.parse text with
    | error e => rw [parse, hd] at h; cases h
    | ok d =>
      rw [parse, hd] at h
      cases h
      obtain ⟨v, spelled, made⟩ := (document d).mp hd
      exact ⟨v, spelled, by rw [← Document.grammar_record?, made]; rfl⟩
  · rintro ⟨v, spelled, made⟩
    rw [← Document.grammar_record?, Option.map_eq_some_iff] at made
    obtain ⟨d, made, rfl⟩ := made
    rw [parse, (document d).mpr ⟨v, spelled, made⟩]
    rfl

/-- A text that is no grammar is unreadable. -/
theorem Grammar.parse_eq_error {text : String} {e : GrammarError}
    (h : Grammar.parse text = .error e) : ∃ report, e = .unreadable report ∧
      Reader.parse (record Rule.roomInDocument (Document.form (Rule.roomInDocument - 1))) text =
        .error report := by
  unfold Grammar.parse Document.parse at h
  cases hr : Reader.parse (record Rule.roomInDocument
      (Document.form (Rule.roomInDocument - 1))) text with
  | ok d => rw [hr] at h; cases h
  | error report =>
    rw [hr] at h
    cases h
    exact ⟨report, rfl, rfl⟩

/-! ## Cut and continued texts -/

/-- **A text that is cut anywhere, or continued by more than blanks, is no grammar.** A text that
ends with blanks loses nothing with them, so the text is one that ends solidly. -/
theorem Grammar.parse_cut_or_continued {text : String} {g : Grammar} {c : Char}
    (accepted : Grammar.parse text = .ok g) (last : text.toList.getLast? = some c)
    (solid : isBlank c = false) :
    (∀ start more, text = start ++ more → more ≠ "" →
      ∃ report, Grammar.parse start = .error (.unreadable report)) ∧
    ∀ more : String, (∃ c ∈ more.toList, isBlank c = false) →
      ∃ report, Grammar.parse (text ++ more) = .error (.unreadable report) := by
  obtain ⟨v, spelled, made⟩ := Grammar.parse_eq_ok.mp accepted
  have unreadable {other : String} (refused : ∀ g', Grammar.parse other ≠ .ok g') :
      ∃ report, Grammar.parse other = .error (.unreadable report) := by
    cases h : Grammar.parse other with
    | ok g' => exact absurd h (refused g')
    | error e =>
      obtain ⟨report, rfl, _⟩ := Grammar.parse_eq_error h
      exact ⟨report, rfl⟩
  constructor
  · rintro start more rfl proper
    refine unreadable fun g' accepted' => proper ?_
    obtain ⟨w, spelled', made'⟩ := Grammar.parse_eq_ok.mp accepted'
    exact spelled.eq_empty_of_append spelled' (Layout.not_isScalar made') last solid
  · rintro more ⟨c', within, solid'⟩
    refine unreadable fun g' accepted' => ?_
    obtain ⟨w, spelled', _⟩ := Grammar.parse_eq_ok.mp accepted'
    have blank := spelled.isBlank_of_append (Layout.not_isScalar made) last solid spelled' c' within
    rw [blank] at solid'
    cases solid'

/-- A grammar without rules, cut before its last bracket and continued by another bracket. -/
theorem Grammar.parse_cut_or_continued_without_rules :
    (∃ report, Grammar.parse "\x7b\"name\":\"x\",\"rules\":\x7b\x7d" =
      .error (.unreadable report)) ∧
    ∃ report, Grammar.parse "\x7b\"name\":\"x\",\"rules\":\x7b\x7d\x7d ]" =
      .error (.unreadable report) := by
  obtain ⟨g, accepted⟩ : ∃ g, Grammar.parse "\x7b\"name\":\"x\",\"rules\":\x7b\x7d\x7d" =
    .ok g := ⟨_, rfl⟩
  obtain ⟨cut, continued⟩ := Grammar.parse_cut_or_continued accepted rfl rfl
  exact ⟨cut _ "\x7d" rfl (by decide), continued " ]" ⟨']', by decide, rfl⟩⟩

end GrammarArtifact
