import Mathlib
import GrammarArtifact.Language.Handle
import GrammarArtifact.Proofs.Grammar.Listing
import GrammarArtifact.Proofs.Language.Loading
import GrammarArtifact.Rule.Build

/-! # Loading along any enumeration

Some passes over a grammar go over its rules as the map enumerates them, and fill a set
or an ordered map: the references, the anonymous kinds, the fields and the levels of
precedence. The other passes go over the sorted names, and look up what they need: the
search for errors, of which the first counts, the warnings, and the named kinds, where
the first of several aliases counts. Here all passes are written along a listing, and
with every listing they load what `Language.ofGrammarWith` loads. -/

namespace GrammarArtifact
namespace Listing
variable {g : Grammar} (L : Listing g)

/-! ## Passes in the order of the map -/

def referenced : NameSet := .ofList (L.entries.flatMap fun entry => entry.2.references)

def anonymousKinds : NameSet :=
  let bodies := L.entries.map Prod.snd |>.filter fun body => !body.isLexical
  .ofList ((bodies ++ g.extraRules).flatMap Rule.anonymousKinds ++
    g.externalRules.filterMap Rule.stringValue?)

def fieldNames : NameSet :=
  .ofList (L.entries.flatMap fun entry => entry.2.preorder.filterMap Rule.fieldName?)

def levels : NameMap (List Int) :=
  .ofList (L.entries.map fun entry => (entry.1, entry.2.precedenceLevels))

/-! ## Passes in the order of the names -/

def roots : List String := L.names.filter fun name => !L.referenced.contains name

def startRule : Except GrammarError String :=
  if g.rules.isEmpty then .error (.noRules g.name)
  else if g.rules.contains Grammar.defaultStart then .ok Grammar.defaultStart
  else
    match L.roots with
    | [only] => .ok only
    | [] => .error (.noStart .everyRuleReferenced)
    | several => .error (.noStart (.severalRoots several))

def startError? : Option ValidationError :=
  match L.startRule with
  | .ok _ => none
  | .error e => some (.grammar e)

def symbolError? : Option ValidationError :=
  L.sorted.findSome? fun (name, body) =>
    (g.undefinedIn? body).map fun symbol => .undefinedSymbol symbol name

def ruleTerminalError? (check : PatternCheck) : Option ValidationError :=
  L.sorted.findSome? fun (name, body) =>
    (body.terminals false).findSome? fun (r, inToken) => r.terminalError? check name inToken

/-- The first error; the lists of names and of rules are searched as they are declared. -/
def error? (check : PatternCheck) : Option ValidationError :=
  L.startError? <|> L.symbolError? <|>
  g.nameError? .conflicts (g.conflicts.getD []).flatten <|>
  g.nameError? .inlined (g.inlined.getD []) <|>
  g.nameError? .supertypes (g.supertypes.getD []) <|>
  g.nameError? .word g.word.toList <|>
  g.referenceError? .extras g.extraRules <|>
  g.referenceError? .precedences (g.precedences.getD []).flatten <|>
  L.ruleTerminalError? check <|> g.extraTerminalError? check

def unreachableRules (start : String) : List String :=
  let reached := g.reachableFrom (start :: g.extraRules.flatMap Rule.references)
  L.names.filter fun name => !reached.contains name && !g.isHidden name

def leftRecursiveRules : List String :=
  (L.sorted.filter fun (name, body) => body.beginsWith name).map Prod.fst

def mixedPrecedences : List (String × List Int) :=
  L.levels.toList.filter fun entry => 1 < entry.2.length

def warnings (start : String) : List Warning :=
  (L.unreachableRules start).map .unreachableRule ++
  L.leftRecursiveRules.map .leftRecursion ++
  L.mixedPrecedences.map fun (name, levels) => .mixedPrecedence name levels

def namedAliases : List (String × Rule) :=
  L.sorted.flatMap fun entry => entry.2.preorder.filterMap Rule.namedAlias?

def ruleTypes : NameMap NodeType :=
  .ofList ((L.sorted.filter fun entry => !g.isHidden entry.1).map fun (name, body) =>
    (name, g.nodeType name body))

def namedTypes : NameMap NodeType :=
  let externals := g.externalNames.filter fun name => !g.isHidden name
  let withExternals := externals.foldl (fun types name =>
    types.insertIfNew name (.leaf name true)) L.ruleTypes
  L.namedAliases.foldl (fun types (name, content) =>
    if types.contains name then types else types.insert name (g.aliasType name content))
    withExternals

def nodeTypes : List NodeType :=
  L.namedTypes.toList.map Prod.snd ++ L.anonymousKinds.toList.map fun kind => .leaf kind false

def validateWith (check : PatternCheck) : Except ValidationError (List Warning) :=
  match L.error? check with
  | some e => .error e
  | none =>
    match L.startRule with
    | .ok start => .ok (L.warnings start)
    | .error e => .error (.grammar e)

/-- Checks a grammar and builds its tables, along a listing of its rules. -/
def loadWith (check : PatternCheck) : Except LanguageError Language :=
  match L.validateWith check, L.startRule with
  | .ok warnings, .ok startRule =>
    .ok { grammar := g, startRule, warnings
          nodeTypes := L.nodeTypes
          fields := L.fieldNames.toList }
  | .error e, _ => .error (.invalid e)
  | _, .error e => .error (.grammar e)

/-! ## The order is gone -/

theorem referenced_eq : L.referenced = g.referencedSymbols :=
  ofList_perm (L.perm.flatMap_right _)

theorem anonymousKinds_eq : L.anonymousKinds = g.anonymousKinds := by
  have bodies := (L.perm.map Prod.snd).filter fun body => !body.isLexical
  exact ofList_perm (((bodies.append_right _).flatMap_right _).append_right _)

theorem fieldNames_eq : L.fieldNames = g.fieldNames := ofList_perm (L.perm.flatMap_right _)

theorem startRule_eq : L.startRule = g.startRule := by
  unfold startRule roots
  rw [names_eq, referenced_eq]
  rfl

theorem error?_eq (check : PatternCheck) : L.error? check = g.error? check := by
  have start : L.startError? = g.startError? := by
    unfold startError?
    rw [startRule_eq]
    rfl
  unfold error? symbolError? ruleTerminalError?
  rw [start, sorted_eq]
  rfl

theorem mixedPrecedences_eq : L.mixedPrecedences = g.mixedPrecedences := by
  unfold mixedPrecedences levels
  rw [L.ofList_map fun _ body => body.precedenceLevels, Std.ExtTreeMap.toList_map]
  rfl

theorem warnings_eq (start : String) : L.warnings start = g.warnings start := by
  unfold warnings unreachableRules leftRecursiveRules
  rw [names_eq, sorted_eq, mixedPrecedences_eq]
  rfl

theorem nodeTypes_eq : L.nodeTypes = g.nodeTypes := by
  unfold nodeTypes namedTypes namedAliases ruleTypes
  rw [sorted_eq, anonymousKinds_eq]
  rfl

theorem validateWith_eq (check : PatternCheck) : L.validateWith check = g.validateWith check := by
  unfold validateWith
  rw [error?_eq, startRule_eq, funext L.warnings_eq]
  rfl

/-- **Along every listing the same is loaded.** -/
theorem loadWith_eq (check : PatternCheck) :
    L.loadWith check = Language.ofGrammarWith check g := by
  unfold loadWith
  rw [validateWith_eq, startRule_eq, nodeTypes_eq, fieldNames_eq]
  rfl

end Listing

namespace Language
variable {text text' : String} {d d' : Document}

theorem ofTextWith_eq_loadWith (check : PatternCheck) (read : Document.parse text = .ok d)
    (L : Listing d.grammar) : ofTextWith check text = L.loadWith check := by
  rw [L.loadWith_eq, ofTextWith, Grammar.parse, read]
  rfl

/-- **What is loaded does not depend on the order of the rules.** Let two documents list the same
rules, each once, in different orders and be alike otherwise, and let their maps enumerate the
rules in any two orders. Either the same error keeps both from being loaded, or both are loaded with
the same tables, and their handles are equal. -/
theorem load_of_reordered (check : PatternCheck) (read : Document.parse text = .ok d)
    (read' : Document.parse text' = .ok d') (distinct : (d.entries.map Prod.fst).Nodup)
    (reordered : d'.entries.Perm d.entries) (same : d'.frame = d.frame)
    (L : Listing d.grammar) (L' : Listing d'.grammar) :
    ofTextWith check text = L.loadWith check ∧ ofTextWith check text' = L'.loadWith check ∧
      ((∃ e, L.loadWith check = .error e ∧ L'.loadWith check = .error e) ∨
        ∃ l l', L.loadWith check = .ok l ∧ L'.loadWith check = .ok l' ∧
          l.startRule = l'.startRule ∧
          l.symbols = l'.symbols ∧ l.fields = l'.fields ∧ l.nodeTypes = l'.nodeTypes ∧
          l.nodeTypesText = l'.nodeTypesText ∧ l.warnings = l'.warnings ∧
          ∀ id id', (Handle.mk id l).agrees (Handle.mk id' l') = true) := by
  have grammar : d'.grammar = d.grammar := Document.grammar_eq distinct reordered same
  have both : L'.loadWith check = L.loadWith check := by
    rw [L'.loadWith_eq, L.loadWith_eq, grammar]
  refine ⟨ofTextWith_eq_loadWith check read L, ofTextWith_eq_loadWith check read' L', ?_⟩
  rw [both]
  cases h : L.loadWith check with
  | error e => exact .inl ⟨e, rfl, rfl⟩
  | ok l =>
    refine .inr ⟨l, l, rfl, rfl, rfl, rfl, rfl, rfl, rfl, rfl, ?_⟩
    intro id id'
    simp [Handle.agrees]

/-- A grammar of two rules, of which one refers to the other. -/
def pairText : String :=
  "\x7b\"name\":\"two\",\"rules\":\x7b\"source_file\":\x7b\"type\":\"SYMBOL\",\"name\":\"b\"\x7d," ++
    "\"b\":\x7b\"type\":\"BLANK\"\x7d\x7d\x7d"

/-- The grammar with its rules the other way round. -/
def turnedText : String :=
  "\x7b\"name\":\"two\",\"rules\":\x7b\"b\":\x7b\"type\":\"BLANK\"\x7d," ++
    "\"source_file\":\x7b\"type\":\"SYMBOL\",\"name\":\"b\"\x7d\x7d\x7d"

def pairEntries : List (String × Rule) := [("source_file", .symbol "b"), ("b", .blank)]

def pairDocument (entries : List (String × Rule)) : Document :=
  ⟨entries, { name := "two", rules := ∅ }⟩

theorem read_pairText : Document.parse pairText = .ok (pairDocument pairEntries) := by cbv

theorem read_turnedText : Document.parse turnedText = .ok (pairDocument pairEntries.reverse) := by
  cbv

theorem pairDocument_loaded : ofGrammar (pairDocument pairEntries).grammar =
    .ok (tables (pairDocument pairEntries).grammar "source_file") :=
  ofGrammarWith_eq_ok.mpr ⟨by cbv, "source_file", by cbv, rfl⟩

/-- Whichever rule comes first in the text, the same is loaded. -/
theorem pair_reordered : ∃ l l', ofText pairText = .ok l ∧ ofText turnedText = .ok l' ∧
    l.startRule = l'.startRule ∧ l.warnings = l'.warnings ∧
    ∀ id id', (Handle.mk id l).agrees (Handle.mk id' l') = true := by
  have distinct : (pairEntries.map Prod.fst).Nodup := by decide
  have distinct' : (pairEntries.reverse.map Prod.fst).Nodup := by decide
  obtain ⟨read, read', ⟨e, failed, _⟩ | ⟨l, l', ok, ok', start, _, _, _, _, warnings, equal⟩⟩ :=
    load_of_reordered Pattern.complaint? read_pairText read_turnedText distinct
      pairEntries.reverse_perm rfl (Document.listing _ distinct) (Document.listing _ distinct')
  · rw [Listing.loadWith_eq] at failed
    cases pairDocument_loaded.symm.trans failed
  · exact ⟨l, l', read.trans ok, read'.trans ok', start, warnings, equal⟩

end Language
end GrammarArtifact
