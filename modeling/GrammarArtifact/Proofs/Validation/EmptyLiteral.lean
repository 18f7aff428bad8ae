import Mathlib
import GrammarArtifact.Proofs.Language.Kinds
import GrammarArtifact.Proofs.Validation.Exact

/-! # Empty literals that surface

The checks and the table of kinds decide separately which literals stand on their own.
The checks pass over all that is inside a token, over the inside of a pattern and over
the externals, and they take the extras for tokens. The table takes the literal that is
all of a token, and it takes literals from all these places. So a kind can be empty,
but not because of a literal that stands bare in a rule. -/

namespace GrammarArtifact

namespace Rule
variable {r s : Rule} {passed : List Rule}

/-- The second rule is revealed by the first one, and the rules above it are passed on the way, the
outermost first. -/
inductive RevealsThrough : Rule → List Rule → Rule → Prop
  | here {r : Rule} : RevealsThrough r [] r
  | down {r c s : Rule} {passed : List Rule} : ¬r.Covers → c ∈ r.children →
    (r.type = .aliased → r.content = some c) → RevealsThrough c passed s →
    RevealsThrough r (r :: passed) s

theorem reveals_iff_through : r.Reveals s ↔ ∃ passed, r.RevealsThrough passed s := by
  constructor
  · intro h
    induction h with
    | here => exact ⟨[], .here⟩
    | down uncovered hc content _ ih =>
      obtain ⟨passed, h⟩ := ih
      exact ⟨_, .down uncovered hc content h⟩
  · intro h
    obtain ⟨passed, h⟩ := h
    induction h with
    | here => exact .here
    | down uncovered hc content _ ih => exact .down uncovered hc content ih

theorem RevealsThrough.walk (h : r.RevealsThrough passed s) : ∃ path, r.Walk path passed s := by
  induction h with
  | here => exact ⟨[], .here⟩
  | down _ hc _ _ ih =>
    obtain ⟨path, w⟩ := ih
    obtain ⟨i, hi⟩ := List.mem_iff_getElem?.mp hc
    exact ⟨i :: path, .down hi w⟩

theorem RevealsThrough.not_covers (h : r.RevealsThrough passed s) :
    ∀ outer ∈ passed, ¬outer.Covers := by
  induction h with
  | here => exact List.forall_mem_nil _
  | down uncovered _ _ _ ih => exact List.forall_mem_cons.mpr ⟨uncovered, ih⟩

/-- A literal is filled that a body reveals, not through a pattern, if its bare literals are. -/
theorem LiteralsFilled.of_revealed {text : String} (filled : r.LiteralsFilled)
    (h : r.RevealsThrough passed s) (apart : ∀ outer ∈ passed, outer.type ≠ .pattern)
    (hs : s.stringValue? = some text) : text ≠ "" := by
  obtain ⟨literal, htext⟩ := stringValue?_eq_some.mp hs
  obtain ⟨path, w⟩ := h.walk
  have uncovered := h.not_covers
  have surfaces : r.Surfaces path passed s := by
    refine ⟨w, fun outer ho => ⟨fun hstring => ?_, apart outer ho⟩⟩
    exact uncovered outer ho (.inl hstring)
  have outside : ∀ outer ∈ passed, outer.type ≠ .token ∧ outer.type ≠ .immediateToken := by
    intro outer ho
    refine Grammar.isToken_eq_false.mp (Bool.eq_false_iff.mpr fun ht => ?_)
    exact uncovered outer ho (.inr (.inl ht))
  obtain ⟨text', htext', nonempty⟩ := filled path passed s surfaces literal outside
  rw [htext] at htext'
  cases htext'
  exact nonempty

end Rule

/-- The places from which the table of kinds takes literals: bare in a rule, as all of a token in a
rule, inside a pattern in a rule, in an extra, and as an external. -/
inductive LiteralPlace where
  | bare
  | token
  | pattern
  | extra
  | external
  deriving DecidableEq

namespace Grammar
variable {check : PatternCheck} {g : Grammar} {kind : String} {warnings : List Warning}

/-- A text that the table of kinds takes from a literal. -/
inductive TakesLiteral (g : Grammar) : LiteralPlace → String → Prop
  | bare {name text : String} {body s : Rule} {passed : List Rule} : g.rule? name = some body →
    body.isLexical = false → body.RevealsThrough passed s →
    (∀ outer ∈ passed, outer.type ≠ .pattern) → s.stringValue? = some text →
    TakesLiteral g .bare text
  | token {name text : String} {body s c : Rule} : g.rule? name = some body →
    body.isLexical = false → body.Reveals s → s.type.isToken = true → s.content = some c →
    c.stringValue? = some text → TakesLiteral g .token text
  | pattern {name text : String} {body s outer : Rule} {passed : List Rule} :
    g.rule? name = some body → body.isLexical = false → body.RevealsThrough passed s →
    outer ∈ passed → outer.type = .pattern → s.stringValue? = some text →
    TakesLiteral g .pattern text
  | extra {text : String} {body s : Rule} : body ∈ g.extraRules → body.Reveals s →
    s.type ≠ .aliased → s.Yields text → TakesLiteral g .extra text
  | external {text : String} {r : Rule} : r ∈ g.externalRules → r.stringValue? = some text →
    TakesLiteral g .external text

/-- A name that an alias in a rule or in an extra gives to anonymous nodes. -/
def AliasKind (g : Grammar) (kind : String) : Prop :=
  ∃ body s, ((∃ name, g.rule? name = some body ∧ body.isLexical = false) ∨ body ∈ g.extraRules) ∧
    body.Reveals s ∧ s.type = .aliased ∧ s.isNamed = false ∧ s.text? = some kind

/-- What a rule reveals is taken from a literal or from an alias. -/
theorem takes_of_rule {name : String} {body s : Rule} (hr : g.rule? name = some body)
    (hl : body.isLexical = false) (hs : body.Reveals s) (yields : s.Yields kind) :
    (∃ place, g.TakesLiteral place kind) ∨ g.AliasKind kind := by
  cases yields with
  | literal literal =>
    obtain ⟨passed, through⟩ := Rule.reveals_iff_through.mp hs
    by_cases inside : ∃ outer ∈ passed, outer.type = .pattern
    · obtain ⟨outer, ho, ht⟩ := inside
      exact .inl ⟨.pattern, .pattern hr hl through ho ht literal⟩
    · have apart : ∀ outer ∈ passed, outer.type ≠ .pattern := by
        intro outer ho ht
        exact inside ⟨outer, ho, ht⟩
      exact .inl ⟨.bare, .bare hr hl through apart literal⟩
  | token ht hc literal => exact .inl ⟨.token, .token hr hl hs ht hc literal⟩
  | renamed ha hn text => exact .inr ⟨body, s, .inl ⟨name, hr, hl⟩, hs, ha, hn, text⟩

theorem takes_of_extra {body s : Rule} (hx : body ∈ g.extraRules) (hs : body.Reveals s)
    (yields : s.Yields kind) : (∃ place, g.TakesLiteral place kind) ∨ g.AliasKind kind := by
  by_cases ha : s.type = .aliased
  · cases yields with
    | literal literal =>
      have literal := (Rule.stringValue?_eq_some.mp literal).1
      rw [ha] at literal
      cases literal
    | token ht hc literal =>
      rw [ha] at ht
      cases ht
    | renamed _ hn text => exact .inr ⟨body, s, .inr hx, hs, ha, hn, text⟩
  · exact .inl ⟨.extra, .extra hx hs ha yields⟩

theorem TakesLiteral.anonymousKind {place : LiteralPlace} (h : g.TakesLiteral place kind) :
    g.AnonymousKind kind := by
  cases h with
  | bare hr hl through _ literal =>
    exact .rule hr hl (Rule.reveals_iff_through.mpr ⟨_, through⟩) (.literal literal)
  | token hr hl hs ht hc literal => exact .rule hr hl hs (.token ht hc literal)
  | pattern hr hl through _ _ literal =>
    exact .rule hr hl (Rule.reveals_iff_through.mpr ⟨_, through⟩) (.literal literal)
  | extra hx hs _ yields => exact .extra hx hs yields
  | external hx literal => exact .external hx literal

/-- **The anonymous kinds are taken from literals and from aliases.** -/
theorem anonymousKind_iff :
    g.AnonymousKind kind ↔ (∃ place, g.TakesLiteral place kind) ∨ g.AliasKind kind := by
  constructor
  · intro h
    cases h with
    | external hx literal => exact .inl ⟨.external, .external hx literal⟩
    | rule hr hl hs yields => exact takes_of_rule hr hl hs yields
    | extra hx hs yields => exact takes_of_extra hx hs yields
  · intro h
    rcases h with ⟨place, taken⟩ | ⟨body, s, held, hs, ha, hn, text⟩
    · exact taken.anonymousKind
    · have yields : s.Yields kind := .renamed ha hn text
      rcases held with ⟨name, hr, hl⟩ | hx
      · exact .rule hr hl hs yields
      · exact .extra hx hs yields

/-- In a grammar that meets the conditions a bare literal has a text. -/
theorem Sound.bare_filled (sound : g.Sound check) {text : String}
    (h : g.TakesLiteral .bare text) : text ≠ "" := by
  cases h with
  | bare hr _ through apart literal =>
    exact (sound.literals _ _ hr).of_revealed through apart literal

/-- **No bare literal that surfaces is empty** in a grammar that passes the checks. An empty kind of
its language that stems from a literal stems from one that is all of a token, from one inside a
pattern, from an extra or from an external. -/
theorem surfacing_literals_filled (valid : g.validateWith check = .ok warnings) :
    (∀ text, g.TakesLiteral .bare text → text ≠ "") ∧
    ∀ l, Language.ofGrammarWith check g = .ok l → ⟨"", false⟩ ∈ l.nodeTypes.map NodeType.ref →
      g.AliasKind "" ∨ ∃ place ∈ [LiteralPlace.token, .pattern, .extra, .external],
        g.TakesLiteral place "" := by
  have sound := error?_eq_none.mp (validateWith_eq_ok.mp valid).1
  refine ⟨fun text taken => sound.bare_filled taken, ?_⟩
  intro l loaded listed
  obtain ⟨_, start, _, rfl⟩ := Language.ofGrammarWith_eq_ok.mp loaded
  have surfaces : g.AnonymousKind "" := by
    rw [← mem_anonymousKinds, ← anonymous_mem_refs]
    exact listed
  rcases anonymousKind_iff.mp surfaces with ⟨place, taken⟩ | renamed
  · cases place with
    | bare => exact absurd rfl (sound.bare_filled taken)
    | token | pattern | extra | external => exact .inr ⟨_, by decide, taken⟩
  · exact .inl renamed

def gapPattern : Rule := { Rule.pattern "b" with members := [.literal ""] }

/-- A letter, a token of nothing, and the pattern. -/
def gapBody : Rule := .seq [.literal "a", .token (.literal ""), gapPattern]

/-- A grammar with an empty literal in every place where the checks let it stand. -/
def gaps : Grammar where
  name := "gaps"
  rules := .ofList [("source_file", gapBody)]
  extras := some [.literal ""]
  externals := some [.literal ""]

theorem gaps_valid : gaps.validate = .ok [] :=
  validateWith_eq_ok.mpr ⟨by cbv, "source_file", by cbv, by cbv⟩

theorem gaps_rule : gaps.rule? "source_file" = some gapBody := by cbv

theorem not_covers_gapBody : ¬gapBody.Covers := by
  simp [Rule.Covers, gapBody, Rule.seq, RuleType.isToken]

/-- The grammar passes the checks, the empty kind is listed, and it stems from a literal in each of
these places. -/
theorem gaps_surface : gaps.validate = .ok [] ∧ (∃ l, Language.ofGrammar gaps = .ok l ∧
      ⟨"", false⟩ ∈ l.nodeTypes.map NodeType.ref) ∧
    ∀ place ∈ [LiteralPlace.token, .pattern, .extra, .external], gaps.TakesLiteral place "" := by
  have token : gaps.TakesLiteral .token "" := by
    refine .token (s := .token (.literal "")) (c := .literal "") gaps_rule rfl ?_ rfl rfl rfl
    exact .down not_covers_gapBody (by decide) (by decide) .here
  have pattern : gaps.TakesLiteral .pattern "" := by
    have uncovered : ¬gapPattern.Covers := by
      simp [Rule.Covers, gapPattern, Rule.pattern, RuleType.isToken]
    have inside : gapPattern.RevealsThrough [gapPattern] (.literal "") :=
      .down uncovered (by decide) (by decide) .here
    have through : gapBody.RevealsThrough [gapBody, gapPattern] (.literal "") :=
      .down not_covers_gapBody (by decide) (by decide) inside
    have passed : gapPattern ∈ [gapBody, gapPattern] := by decide
    exact .pattern gaps_rule rfl through passed rfl rfl
  have extra : gaps.TakesLiteral .extra "" := by
    have held : Rule.literal "" ∈ gaps.extraRules := List.mem_singleton_self _
    exact .extra held .here (by decide) (.literal rfl)
  have external : gaps.TakesLiteral .external "" :=
    .external (r := .literal "") (List.mem_singleton_self _) rfl
  refine ⟨gaps_valid, ⟨Language.tables gaps "source_file", ?_, ?_⟩, ?_⟩
  · exact Language.ofGrammarWith_eq_ok.mpr
      ⟨(validateWith_eq_ok.mp gaps_valid).1, "source_file", by cbv, rfl⟩
  · show ⟨"", false⟩ ∈ gaps.nodeTypes.map NodeType.ref
    rw [anonymous_mem_refs, mem_anonymousKinds]
    exact token.anonymousKind
  · simp only [List.forall_mem_cons]
    exact ⟨token, pattern, extra, external, List.forall_mem_nil _⟩

/-- The letter is taken from a bare literal, so it is not empty. -/
theorem gaps_letter : gaps.validate = .ok [] ∧ gaps.TakesLiteral .bare "a" ∧ "a" ≠ "" ∧
    ¬gaps.TakesLiteral .bare "" := by
  have letter : gaps.TakesLiteral .bare "a" := by
    refine .bare (s := .literal "a") gaps_rule rfl
      (.down not_covers_gapBody (by decide) (by decide) .here) ?_ rfl
    intro outer ho
    rw [List.mem_singleton.mp ho]
    decide
  have filled := (surfacing_literals_filled gaps_valid).1
  exact ⟨gaps_valid, letter, filled "a" letter, fun taken => filled "" taken rfl⟩

end Grammar
end GrammarArtifact
