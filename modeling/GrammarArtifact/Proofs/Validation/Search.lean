import GrammarArtifact.Proofs.Grammar.Rules
import GrammarArtifact.Proofs.Validation.Fault
import GrammarArtifact.Proofs.Validation.Finds

/-! # Each check finds its first fault

The checks go through bodies in two ways. References are looked for in all rules of a
body, terminals only in those that surface, with a flag that says whether a token is
around. Both are searches of a rule before its children, in the order of the paths. -/

namespace GrammarArtifact
variable {ε : Type}

theorem findSome?_cons_or {α : Type} (look : α → Option ε) (a : α) (rest : List α) :
    (a :: rest).findSome? look = (look a).or (rest.findSome? look) := by
  rw [List.findSome?_cons]
  cases look a <;> rfl

theorem findSome?_flatMap {α β : Type} (part : α → List β) (look : β → Option ε) (items : List α) :
    (items.flatMap part).findSome? look = items.findSome? fun a => (part a).findSome? look := by
  induction items with
  | nil => rfl
  | cons a rest ih => rw [List.flatMap_cons, List.findSome?_append, ih, findSome?_cons_or]

theorem find?_filterMap_eq {α β : Type} (part : α → Option β) (q : β → Bool) (items : List α) :
    (items.filterMap part).find? q = items.findSome? fun a => (part a).filter q := by
  induction items with
  | nil => rfl
  | cons a rest ih =>
    rw [findSome?_cons_or, ← ih, List.filterMap_cons]
    cases part a with
    | none => rfl
    | some b =>
      rw [List.find?_cons, Option.filter_some]
      cases q b <;> rfl

namespace Rule

/-- A search of all rules inside a body finds the first one in the order of the paths. -/
theorem finds_preorder (look : Rule → Option ε) (body : Rule) :
    Finds (body.preorder.findSome? look) fun path e =>
      ∃ passed r, body.Walk path passed r ∧ look r = some e := by
  induction body using children_induction with
  | step body ih =>
    rw [preorder_eq, findSome?_cons_or, findSome?_flatMap]
    refine (Finds.root (Finds.numbered ih)).congr ?_
    intro path e
    constructor
    · rintro ⟨passed, r, w, h⟩
      cases w with
      | here => exact .inl ⟨rfl, h⟩
      | down hc w => exact .inr ⟨_, _, _, rfl, hc, _, r, w, h⟩
    · rintro (⟨rfl, h⟩ | ⟨i, rest, c, rfl, hc, passed, r, w, h⟩)
      · exact ⟨[], body, .here, h⟩
      · exact ⟨_, r, .down hc w, h⟩

theorem memberTerminals_eq (inToken : Bool) (rs : List Rule) :
    memberTerminals inToken rs = rs.flatMap (terminals inToken) := by
  induction rs with
  | nil => rfl
  | cons r rs ih => rw [memberTerminals, ih, List.flatMap_cons]

/-- The terminals of a body are the body, if it is one, and otherwise those of its children. -/
theorem terminals_eq (inToken : Bool) (r : Rule) : r.terminals inToken =
    if r.type = .string ∨ r.type = .pattern then [(r, inToken)]
    else r.children.flatMap (terminals (inToken || r.type.isToken)) := by
  obtain ⟨type, value, name, content, members, named, flags, context⟩ := r
  cases content with
  | none => simp [terminals, contentTerminals, memberTerminals_eq, children]
  | some c => simp [terminals, contentTerminals, memberTerminals_eq, children]

/-- What surfaces in a rule is the rule, or surfaces in a child of a rule that is no terminal. -/
theorem surfaces_iff {body r : Rule} {path : List ℕ} {passed : List Rule} :
    body.Surfaces path passed r ↔ (path = [] ∧ passed = [] ∧ r = body) ∨
      (body.type ≠ .string ∧ body.type ≠ .pattern) ∧ ∃ i rest c inner, path = i :: rest ∧
        passed = body :: inner ∧ body.children[i]? = some c ∧ c.Surfaces rest inner r := by
  constructor
  · rintro ⟨w, h⟩
    cases w with
    | here => exact .inl ⟨rfl, rfl, rfl⟩
    | down hc w =>
      obtain ⟨hbody, h⟩ := List.forall_mem_cons.mp h
      exact .inr ⟨hbody, _, _, _, _, rfl, rfl, hc, w, h⟩
  · rintro (⟨rfl, rfl, rfl⟩ | ⟨hbody, i, rest, c, inner, rfl, rfl, hc, w, h⟩)
    · exact ⟨.here, nofun⟩
    · exact ⟨.down hc w, List.forall_mem_cons.mpr ⟨hbody, h⟩⟩

/-- A search of the terminals of a body finds the first one in the order of the paths. -/
theorem finds_terminals (look : Rule × Bool → Option ε) (body : Rule) (inToken : Bool) :
    Finds ((body.terminals inToken).findSome? look) fun path e => ∃ passed r,
      body.Surfaces path passed r ∧ (r.type = .string ∨ r.type = .pattern) ∧
      look (r, inToken || passed.any fun outer => outer.type.isToken) = some e := by
  -- A token changes the flag for all that is inside it, so the induction keeps the flag open.
  induction body using children_induction generalizing inToken with
  | step body ih =>
    rw [terminals_eq]
    split
    next terminal =>
      rw [List.findSome?_singleton]
      refine (Finds.single (look (body, inToken)) ([] : List ℕ)).congr ?_
      intro path e
      constructor
      · rintro ⟨passed, r, hs, _, h⟩
        rcases surfaces_iff.mp hs with ⟨rfl, rfl, rfl⟩ | ⟨⟨hstring, hpattern⟩, _⟩
        · exact ⟨rfl, by simpa using h⟩
        · exact absurd terminal (not_or.mpr ⟨hstring, hpattern⟩)
      · rintro ⟨rfl, h⟩
        exact ⟨[], body, surfaces_iff.mpr (.inl ⟨rfl, rfl, rfl⟩), terminal, by simpa using h⟩
    next other =>
      rw [findSome?_flatMap]
      refine (Finds.numbered fun c hc => ih c hc (inToken || body.type.isToken)).congr ?_
      intro path e
      constructor
      · rintro ⟨passed, r, hs, terminal, h⟩
        rcases surfaces_iff.mp hs with ⟨_, _, rfl⟩ | ⟨_, i, rest, c, inner, rfl, rfl, hc, hs⟩
        · exact absurd terminal other
        · rw [List.any_cons, ← Bool.or_assoc] at h
          exact ⟨i, rest, c, rfl, hc, inner, r, hs, terminal, h⟩
      · rintro ⟨i, rest, c, rfl, hc, inner, r, hs, terminal, h⟩
        refine ⟨body :: inner, r, ?_, terminal, ?_⟩
        · exact surfaces_iff.mpr (.inr ⟨not_or.mp other, i, rest, c, inner, rfl, rfl, hc, hs⟩)
        · rw [List.any_cons, ← Bool.or_assoc]
          exact h

end Rule

namespace Grammar
variable {check : PatternCheck} {g : Grammar} {p : Position} {e : ValidationError}

/-! ## Rules by name, items by number -/

/-- A search of the rules finds its first fault in the order of their names. -/
theorem finds_rules (g : Grammar) (c : Check) {search : String × Rule → Option ε}
    {faults : String → Rule → List ℕ → ε → Prop}
    (each : ∀ name body, Finds (search (name, body)) (faults name body)) :
    Finds (g.ruleEntries.findSome? search) fun p e =>
      ∃ rule body path, p = Position.mk c rule path ∧ g.rule? rule = some body ∧
        faults rule body path e := by
  have found : Finds (g.ruleEntries.findSome? search) fun p e => ∃ entry ∈ g.ruleEntries,
      ∃ path, p = Position.mk c entry.1 path ∧ faults entry.1 entry.2 path e := by
    refine Finds.list ?_ (g.ruleEntries_sorted.imp ?_)
    · rintro ⟨name, body⟩ _
      exact (each name body).within (Position.mk c name) fun _ _ => Position.path_lt_of_lt
    · rintro a b before _ _ e e' ⟨path, rfl, _⟩ ⟨path', rfl, _⟩
      exact Position.mk_lt_mk.mpr (.inl before)
  refine found.congr ?_
  intro p e
  constructor
  · rintro ⟨rule, body, path, rfl, hr, hf⟩
    exact ⟨(rule, body), mem_ruleEntries.mpr hr, path, rfl, hf⟩
  · rintro ⟨⟨rule, body⟩, hm, path, rfl, hf⟩
    exact ⟨rule, body, path, rfl, mem_ruleEntries.mp hm, hf⟩

/-- A search of a list finds its first fault in the order of the items. -/
theorem finds_items {α : Type} (c : Check) {items : List α} {search : α → Option ε}
    {faults : α → List ℕ → ε → Prop} (each : ∀ a ∈ items, Finds (search a) (faults a)) :
    Finds (items.findSome? search) fun p e =>
      ∃ i rest a, p = Position.mk c "" (i :: rest) ∧ items[i]? = some a ∧ faults a rest e := by
  have found := (Finds.numbered each).within (Position.mk c "") fun _ _ => Position.path_lt_of_lt
  refine found.congr ?_
  intro p e
  constructor
  · rintro ⟨i, rest, a, rfl, ha, hf⟩
    exact ⟨i :: rest, rfl, i, rest, a, rfl, ha, hf⟩
  · rintro ⟨_, rfl, i, rest, a, rfl, ha, hf⟩
    exact ⟨i, rest, a, rfl, ha, hf⟩

/-! ## The single checks -/

theorem defines_iff {name : String} : g.defines name = true ↔ g.Defined name := by
  simp [defines, Defined, externalNames, symbolName?_eq_some]

/-- A search of a body for references finds the first one that is not defined. -/
theorem finds_undefined (g : Grammar) (body : Rule) :
    Finds (g.undefinedIn? body) fun path name => ∃ passed r, body.Walk path passed r ∧
      r.type = .symbol ∧ r.name = some name ∧ ¬g.Defined name := by
  rw [undefinedIn?, find?_filterMap_eq]
  refine (body.finds_preorder _).congr ?_
  intro path name
  simp only [Option.filter_eq_some_iff, symbolName?_eq_some, Bool.not_eq_true', and_assoc,
    ← Bool.not_eq_true, defines_iff]

/-- What is wrong with a terminal by itself. -/
theorem terminalError?_eq_some {r : Rule} {context : String} {inToken : Bool}
    (terminal : r.type = .string ∨ r.type = .pattern) :
    r.terminalError? check context inToken = some e ↔
      (r.type = .pattern ∧ ∃ detail, check (r.text?.getD "") r.ignoresCase = some detail ∧
        e = .invalidPattern context (r.text?.getD "") detail) ∨
      (r.type = .string ∧ inToken = false ∧ (∀ text, r.text? = some text → text = "") ∧
        e = .emptyString context) := by
  unfold Rule.terminalError?
  rcases terminal with h | h
  · have filled : r.text?.all String.isEmpty = true ↔ ∀ text, r.text? = some text → text = "" := by
      cases r.text? <;> simp
    simp [h, filled, and_assoc, @eq_comm _ e]
  · simp [h, @eq_comm _ e]

theorem isToken_eq_false {type : RuleType} :
    type.isToken = false ↔ type ≠ .token ∧ type ≠ .immediateToken := by
  cases type <;> simp [RuleType.isToken]

theorem not_any_isToken {passed : List Rule} :
    (passed.any fun outer => outer.type.isToken) = false ↔
      ∀ outer ∈ passed, outer.type ≠ .token ∧ outer.type ≠ .immediateToken := by
  rw [List.any_eq_false]
  refine forall₂_congr ?_
  intro outer _
  rw [Bool.not_eq_true, isToken_eq_false]

def search (check : PatternCheck) (g : Grammar) : Check → Option ValidationError
  | .start => g.startError?
  | .symbols => g.symbolError?
  | .property property =>
    match g.listed property with
    | .inl names => g.nameError? property names
    | .inr rules => g.referenceError? property rules
  | .terminals => g.ruleTerminalError? check
  | .extraTerminals => g.extraTerminalError? check

theorem error?_eq (check : PatternCheck) (g : Grammar) :
    g.error? check = Check.all.findSome? (g.search check) := by
  simp only [error?, Check.all, findSome?_cons_or, List.findSome?_nil, Option.or_none,
    Option.orElse_eq_or, Option.orElse_eq_orElse]
  rfl

theorem finds_start : Finds g.startError? fun p e => p.check = .start ∧ g.Fault check p e := by
  refine (Finds.single g.startError? (Position.mk .start "" [])).congr ?_
  intro p e
  constructor
  · rintro ⟨hc, hf⟩
    cases hf
    case start e h => exact ⟨rfl, by simp [startError?, h]⟩
    all_goals cases hc
  · rintro ⟨rfl, h⟩
    unfold startError? at h
    split at h
    · cases h
    · rename_i problem hp
      cases h
      exact ⟨rfl, .start hp⟩

theorem finds_symbols : Finds g.symbolError? fun p e => p.check = .symbols ∧ g.Fault check p e := by
  refine (g.finds_rules .symbols fun rule body =>
    (g.finds_undefined body).map fun name => ValidationError.undefinedSymbol name rule).congr ?_
  intro p e
  constructor
  · rintro ⟨hc, hf⟩
    cases hf
    case symbol rule body path passed r name hr w ht hn hu =>
      exact ⟨rule, body, path, rfl, hr, name, rfl, passed, r, w, ht, hn, hu⟩
    all_goals cases hc
  · rintro ⟨rule, body, path, rfl, hr, name, rfl, passed, r, w, ht, hn, hu⟩
    exact ⟨rfl, .symbol hr w ht hn hu⟩

theorem finds_names {property : GrammarProperty} {names : List String}
    (listed : g.listed property = .inl names) : Finds (g.nameError? property names)
      fun p e => p.check = .property property ∧ g.Fault check p e := by
  have absent : ∀ name, (!g.rules.contains name) = true ↔ name ∉ g.rules := by
    intro name
    rw [Bool.not_eq_true', ← Bool.not_eq_true, Std.ExtTreeMap.contains_iff_mem]
  rw [nameError?, List.find?_eq_findSome?_guard]
  have each : ∀ name ∈ names, Finds (Option.guard (fun name => !g.rules.contains name) name) _ :=
    fun name _ => Finds.single _ ([] : List ℕ)
  refine ((finds_items (.property property) each).map
    fun name => ValidationError.undefinedReference name property).congr ?_
  intro p e
  constructor
  · rintro ⟨hc, hf⟩
    cases hf
    case name names' i name listed' hi hm =>
      cases hc
      obtain rfl := Sum.inl.inj (listed.symm.trans listed')
      refine ⟨name, rfl, i, [], name, rfl, hi, rfl, ?_⟩
      exact Option.guard_eq_some_iff.mpr ⟨rfl, (absent name).mpr hm⟩
    case reference listed' _ _ _ _ _ =>
      cases hc
      cases listed.symm.trans listed'
    all_goals cases hc
  · rintro ⟨_, rfl, i, rest, name, rfl, hi, rfl, h⟩
    obtain ⟨rfl, hm⟩ := Option.guard_eq_some_iff.mp h
    exact ⟨rfl, .name listed hi ((absent name).mp hm)⟩

theorem finds_references {property : GrammarProperty} {rules : List Rule}
    (listed : g.listed property = .inr rules) : Finds (g.referenceError? property rules)
      fun p e => p.check = .property property ∧ g.Fault check p e := by
  refine ((finds_items (.property property) fun body _ => g.finds_undefined body).map
    fun name => ValidationError.undefinedReference name property).congr ?_
  intro p e
  constructor
  · rintro ⟨hc, hf⟩
    cases hf
    case name listed' _ _ =>
      cases hc
      cases listed.symm.trans listed'
    case reference rules' i body path passed r name listed' hi w ht hn hu =>
      cases hc
      obtain rfl := Sum.inr.inj (listed.symm.trans listed')
      exact ⟨name, rfl, i, path, body, rfl, hi, passed, r, w, ht, hn, hu⟩
    all_goals cases hc
  · rintro ⟨name, rfl, i, path, body, rfl, hi, passed, r, w, ht, hn, hu⟩
    exact ⟨rfl, .reference listed hi w ht hn hu⟩

theorem finds_ruleTerminals : Finds (g.ruleTerminalError? check)
    fun p e => p.check = .terminals ∧ g.Fault check p e := by
  refine (g.finds_rules .terminals fun rule body => body.finds_terminals _ false).congr ?_
  intro p e
  constructor
  · rintro ⟨hc, hf⟩
    cases hf
    case pattern rule body path passed r detail hr hs ht hd =>
      refine ⟨rule, body, path, rfl, hr, passed, r, hs, .inr ht, ?_⟩
      exact (terminalError?_eq_some (.inr ht)).mpr (.inl ⟨ht, detail, hd, rfl⟩)
    case literal rule body path passed r hr hs ht outside empty =>
      refine ⟨rule, body, path, rfl, hr, passed, r, hs, .inl ht, ?_⟩
      exact (terminalError?_eq_some (.inl ht)).mpr
        (.inr ⟨ht, not_any_isToken.mpr outside, empty, rfl⟩)
    all_goals cases hc
  · rintro ⟨rule, body, path, rfl, hr, passed, r, hs, terminal, h⟩
    rcases (terminalError?_eq_some terminal).mp h with
      ⟨ht, detail, hd, rfl⟩ | ⟨ht, outside, empty, rfl⟩
    · exact ⟨rfl, .pattern hr hs ht hd⟩
    · exact ⟨rfl, .literal hr hs ht (not_any_isToken.mp outside) empty⟩

theorem finds_extraTerminals : Finds (g.extraTerminalError? check)
    fun p e => p.check = .extraTerminals ∧ g.Fault check p e := by
  refine (finds_items .extraTerminals fun extra _ => extra.finds_terminals _ true).congr ?_
  intro p e
  constructor
  · rintro ⟨hc, hf⟩
    cases hf
    case extraPattern i body path passed r detail hi hs ht hd =>
      refine ⟨i, path, body, rfl, hi, passed, r, hs, .inr ht, ?_⟩
      exact (terminalError?_eq_some (.inr ht)).mpr (.inl ⟨ht, detail, hd, rfl⟩)
    all_goals cases hc
  · rintro ⟨i, path, body, rfl, hi, passed, r, hs, terminal, h⟩
    rcases (terminalError?_eq_some terminal).mp h with ⟨ht, detail, hd, rfl⟩ | ⟨_, inside, _⟩
    · exact ⟨rfl, .extraPattern hi hs ht hd⟩
    · cases inside

/-- **Every check finds the first of its faults.** -/
theorem finds_search (c : Check) :
    Finds (g.search check c) fun p e => p.check = c ∧ g.Fault check p e := by
  cases c with
  | start => exact finds_start
  | symbols => exact finds_symbols
  | property property =>
    cases listed : g.listed property with
    | inl names => simpa only [search, listed] using finds_names listed
    | inr rules => simpa only [search, listed] using finds_references listed
  | terminals => exact finds_ruleTerminals
  | extraTerminals => exact finds_extraTerminals

/-- **All checks together find the first fault.** -/
theorem finds_error (check : PatternCheck) (g : Grammar) :
    Finds (g.error? check) (g.Fault check) := by
  rw [error?_eq]
  refine (Finds.list (fun c _ => finds_search c) (Check.all_sorted.imp ?_)).congr ?_
  · rintro c c' before p q e e' ⟨rfl, _⟩ ⟨rfl, _⟩
    exact Position.lt_iff.mpr (.inl before)
  · intro p e
    constructor
    · intro hf
      exact ⟨p.check, Check.mem_all _, rfl, hf⟩
    · rintro ⟨c, _, _, hf⟩
      exact hf

end Grammar
end GrammarArtifact
