import Mathlib
import GrammarArtifact.Proofs.Language.Loading
import GrammarArtifact.Proofs.NodeType.Table
import GrammarArtifact.Rule.Build

/-! # Numbers of symbols

The symbols of a language are the end of the input and then the kinds of the table,
which has no kind twice. So a number and its symbol determine each other, with one
exception: a literal `end` is the same symbol as the end of the input, and the number
of the latter is found for both. -/

namespace GrammarArtifact
namespace Language
variable {check : PatternCheck} {g : Grammar} {l : Language} {id other : Nat} {kind : String}
  {named : Bool} {ref : NodeRef} {t u : NodeType}

theorem symbol?_eq_some : l.symbol? id = some ref ↔ id < idLimit ∧ l.symbols[id]? = some ref := by
  unfold symbol?
  split <;> simp [*]

/-- The kind of a number and whether it is named are those of its symbol. -/
theorem symbol?_eq_some_iff : l.symbol? id = some ⟨kind, named⟩ ↔
    l.nodeKindForId? id = some kind ∧ l.nodeKindIsNamed id = named := by
  unfold nodeKindForId? nodeKindIsNamed
  cases l.symbol? id with
  | none => simp
  | some ref =>
    obtain ⟨otherKind, otherNamed⟩ := ref
    simp

/-- The number found for a symbol is the first one that it has. -/
theorem idForNodeKind?_eq_some : l.idForNodeKind? kind named = some id ↔
    l.symbol? id = some ⟨kind, named⟩ ∧
      ∀ other < id, l.symbols[other]? ≠ some ⟨kind, named⟩ := by
  unfold idForNodeKind?
  rw [Option.filter_eq_some_iff, List.findIdx?_eq_some_iff_getElem, symbol?_eq_some,
    decide_eq_true_eq]
  constructor
  · rintro ⟨⟨within, found, first⟩, below⟩
    refine ⟨⟨below, List.getElem?_eq_some_iff.mpr ⟨within, by simpa using found⟩⟩, ?_⟩
    intro other before he
    obtain ⟨_, he⟩ := List.getElem?_eq_some_iff.mp he
    exact first other before (by simpa using he)
  · rintro ⟨⟨below, found⟩, first⟩
    obtain ⟨within, found⟩ := List.getElem?_eq_some_iff.mp found
    refine ⟨⟨within, by simpa using found, ?_⟩, below⟩
    intro other before he
    exact first other before (List.getElem?_eq_some_iff.mpr ⟨by omega, by simpa using he⟩)

theorem symbols_of_loaded (loaded : ofGrammarWith check g = .ok l) :
    l.symbols = endSymbol :: g.nodeTypes.map NodeType.ref := by
  obtain ⟨_, start, _, rfl⟩ := ofGrammarWith_eq_ok.mp loaded
  rfl

/-- **No symbol other than the end of the input has two numbers.** -/
theorem eq_of_symbols (loaded : ofGrammarWith check g = .ok l) (distinct : ref ≠ endSymbol)
    (h : l.symbols[id]? = some ref) (h' : l.symbols[other]? = some ref) : id = other := by
  rw [symbols_of_loaded loaded] at h h'
  cases id with
  | zero => exact absurd (Option.some.inj h).symm distinct
  | succ i =>
    cases other with
    | zero => exact absurd (Option.some.inj h').symm distinct
    | succ j =>
      rw [List.getElem?_cons_succ] at h h'
      have within := (List.getElem?_eq_some_iff.mp h).1
      rw [(List.getElem?_inj within g.nodup_refs).mp (h.trans h'.symm)]

/-- Zero is found for the symbol of the end, and for no other one. -/
theorem idForNodeKind?_eq_zero (loaded : ofGrammarWith check g = .ok l) :
    l.idForNodeKind? kind named = some 0 ↔ ⟨kind, named⟩ = endSymbol := by
  have zero : l.symbol? 0 = some endSymbol := by
    refine symbol?_eq_some.mpr ⟨by decide, ?_⟩
    rw [symbols_of_loaded loaded]
    rfl
  constructor
  · intro h
    exact Option.some.inj ((idForNodeKind?_eq_some.mp h).1.symm.trans zero)
  · intro h
    exact idForNodeKind?_eq_some.mpr ⟨h ▸ zero, nofun⟩

/-- The number found for the symbol with a given number is this one, but zero for the end. -/
theorem idForNodeKind?_of_symbol (loaded : ofGrammarWith check g = .ok l)
    (h : l.symbol? id = some ⟨kind, named⟩) :
    l.idForNodeKind? kind named = some (if ⟨kind, named⟩ = endSymbol then 0 else id) := by
  split
  next hend => exact (idForNodeKind?_eq_zero loaded).mpr hend
  next distinct =>
    refine idForNodeKind?_eq_some.mpr ⟨h, ?_⟩
    intro other before he
    have same := eq_of_symbols loaded distinct he (symbol?_eq_some.mp h).2
    omega

/-! ## The entries of the table -/

/-- The entries bear the numbers from one on. -/
theorem symbol?_of_entry {i : Nat} (ht : l.nodeTypes[i]? = some t) (below : i + 1 < idLimit) :
    l.symbol? (i + 1) = some t.ref := by
  refine symbol?_eq_some.mpr ⟨below, ?_⟩
  rw [symbols, List.getElem?_cons_succ, List.getElem?_map, ht]
  rfl

/-- Two entries have no number in common. -/
theorem entry_unique (loaded : ofGrammarWith check g = .ok l) (ht : t ∈ l.nodeTypes)
    (hu : u ∈ l.nodeTypes) (h : l.idForNodeKind? t.kind t.named = some id)
    (h' : l.idForNodeKind? u.kind u.named = some id) : t = u := by
  have ref : l.symbol? id = some t.ref := (idForNodeKind?_eq_some.mp h).1
  have ref' : l.symbol? id = some u.ref := (idForNodeKind?_eq_some.mp h').1
  obtain ⟨_, start, _, rfl⟩ := ofGrammarWith_eq_ok.mp loaded
  exact List.inj_on_of_nodup_map g.nodup_refs ht hu (Option.some.inj (ref.symm.trans ref'))

/-- **Numbers and symbols are inverse to each other, apart from a literal that is the symbol of
the end.** A number leads to its symbol and back, unless the symbol is a literal `end`, from which
one comes to zero. The number found for a symbol always leads back. The entries of the table bear
the numbers from one on, as far as these go; no two of them have a number in common, and zero is
the number of a literal `end` only. -/
theorem symbol_numbers (loaded : ofGrammarWith check g = .ok l) :
    (∀ id kind, l.nodeKindForId? id = some kind →
      l.idForNodeKind? kind (l.nodeKindIsNamed id) =
        some (if kind = "end" ∧ l.nodeKindIsNamed id = false then 0 else id)) ∧
    (∀ kind named id, l.idForNodeKind? kind named = some id →
      id < idLimit ∧ l.nodeKindForId? id = some kind ∧ l.nodeKindIsNamed id = named) ∧
    (∀ i t, l.nodeTypes[i]? = some t → i + 1 < idLimit →
      l.nodeKindForId? (i + 1) = some t.kind ∧ l.nodeKindIsNamed (i + 1) = t.named) ∧
    (∀ t ∈ l.nodeTypes, ∀ u ∈ l.nodeTypes, ∀ id, l.idForNodeKind? t.kind t.named = some id →
      l.idForNodeKind? u.kind u.named = some id → t = u) ∧
    (∀ t ∈ l.nodeTypes, l.idForNodeKind? t.kind t.named = some 0 ↔
      t.kind = "end" ∧ t.named = false) := by
  have hend : ∀ kind named, (⟨kind, named⟩ : NodeRef) = endSymbol ↔ kind = "end" ∧ named = false :=
    fun kind named => by simp [endSymbol]
  refine ⟨?_, ?_, ?_, ?_, ?_⟩
  · intro id kind h
    have found := idForNodeKind?_of_symbol loaded (symbol?_eq_some_iff.mpr ⟨h, rfl⟩)
    simpa only [hend] using found
  · intro kind named id h
    obtain ⟨leads, _⟩ := idForNodeKind?_eq_some.mp h
    exact ⟨(symbol?_eq_some.mp leads).1, symbol?_eq_some_iff.mp leads⟩
  · intro i t ht below
    exact symbol?_eq_some_iff.mp (symbol?_of_entry ht below)
  · intro t ht u hu id
    exact entry_unique loaded ht hu
  · intro t _
    rw [idForNodeKind?_eq_zero loaded, hend]

/-- A grammar of texts between the words `begin` and `end`. -/
def ends : Grammar where
  name := "ends"
  rules := .ofList [("source_file", Rule.seq [.literal "begin", .literal "end"])]

theorem ends_kinds : ends.nodeTypes.map NodeType.ref =
    [⟨"source_file", true⟩, ⟨"begin", false⟩, ⟨"end", false⟩] := by
  have named : ends.namedTypes.keys = ["source_file"] := by
    have external : ends.externalNames = [] := by cbv
    have aliases : ends.namedAliases = [] := by cbv
    have entries : ends.ruleEntries =
        [("source_file", Rule.seq [.literal "begin", .literal "end"])] := by cbv
    have visible : ends.isHidden "source_file" = false := by cbv
    have rules : ends.namedTypes = .ofList [("source_file", ends.nodeType "source_file"
        (Rule.seq [.literal "begin", .literal "end"]))] := by
      simp [Grammar.namedTypes, external, aliases, Grammar.ruleTypes, entries, visible]
    rw [rules]
    generalize ends.nodeType "source_file" (Rule.seq [.literal "begin", .literal "end"]) = t
    cbv
  have anonymous : ends.anonymousKinds.toList = ["begin", "end"] := by cbv
  rw [Grammar.refs_nodeTypes, named, anonymous]
  rfl

/-- The word `end` has the number three, and zero is found for it. -/
theorem ends_symbol_numbers : ∃ l, ofGrammar ends = .ok l ∧
    l.nodeKindForId? 2 = some "begin" ∧ l.idForNodeKind? "begin" false = some 2 ∧
    l.nodeKindForId? 3 = some "end" ∧ l.idForNodeKind? "end" false = some 0 := by
  have loaded : ofGrammar ends = .ok (tables ends "source_file") :=
    ofGrammarWith_eq_ok.mpr ⟨by cbv, "source_file", by cbv, rfl⟩
  have hsymbols : ∀ id, (tables ends "source_file").symbol? id = if id < idLimit then
      [endSymbol, ⟨"source_file", true⟩, ⟨"begin", false⟩, ⟨"end", false⟩][id]? else none := by
    intro id
    rw [symbol?, symbols_of_loaded loaded, ends_kinds]
  obtain ⟨numbers, _⟩ := symbol_numbers loaded
  have hbegin := symbol?_eq_some_iff.mp (hsymbols 2)
  have hend := symbol?_eq_some_iff.mp (hsymbols 3)
  refine ⟨_, loaded, hbegin.1, ?_, hend.1, ?_⟩
  · simpa [hbegin.2] using numbers 2 "begin" hbegin.1
  · simpa [hend.2] using numbers 3 "end" hend.1

end Language
end GrammarArtifact
