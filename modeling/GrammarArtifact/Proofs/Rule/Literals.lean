import GrammarArtifact.NodeType.Table
import GrammarArtifact.Proofs.Rule.Tree

/-! # The literals that a body reveals

The walk for literals stops at a literal and at a token, and of an alias it enters only
the content, unless this is a token. What it collects is given here by places: the
anonymous kinds of a body are what the rules yield that it reveals. -/

namespace GrammarArtifact.Rule
variable {r s c a : Rule} {kind : String}

def isNamedAlias (r : Rule) : Bool := r.type = .aliased && r.isNamed

/-- Whether a rule is neither a literal nor a token nor an alias. -/
def IsOpen (r : Rule) : Prop :=
  r.type ≠ .string ∧ r.type.isToken = false ∧ r.type ≠ .aliased

theorem open_or_alias_or_lexical (r : Rule) :
    r.IsOpen ∨ r.type = .aliased ∨ r.isLexical = true := by
  obtain ⟨type, value, name, content, members, named, flags, context⟩ := r
  cases type <;> simp [IsOpen, RuleType.isToken, isLexical]

/-- The walk for literals tells four kinds of rules apart. -/
theorem cases_of_walk (r : Rule) :
    r.type = .string ∨ r.type.isToken = true ∨ r.type = .aliased ∨ r.IsOpen := by
  unfold IsOpen
  cases r.type <;> simp [RuleType.isToken]

theorem namedAlias?_eq_some {name : String} {content : Rule} :
    a.namedAlias? = some (name, content) ↔
      a.isNamedAlias = true ∧ a.text? = some name ∧ a.content = some content := by
  unfold namedAlias?
  rw [← isNamedAlias]
  cases a.isNamedAlias with
  | true => cases a.text? <;> cases a.content <;> simp
  | false => simp

/-! ## One rule -/

theorem memberKinds_eq (rs : List Rule) : memberKinds rs = rs.flatMap anonymousKinds := by
  induction rs with
  | nil => rfl
  | cons r rs ih => rw [memberKinds, ih, List.flatMap_cons]

/-- An open construction has the literals of its children. -/
theorem anonymousKinds_of_open (h : r.IsOpen) :
    r.anonymousKinds = r.children.flatMap anonymousKinds := by
  obtain ⟨type, value, name, content, members, named, flags, context⟩ := r
  cases type with
  | string => exact absurd rfl h.1
  | token | immediateToken => cases h.2.1
  | aliased => exact absurd rfl h.2.2
  | _ => cases content <;> simp [anonymousKinds, contentKinds, memberKinds_eq, children]

theorem anonymousKinds_of_alias (h : r.type = .aliased) :
    r.anonymousKinds =
      (if r.isNamed then [] else r.text?.toList) ++ renamedKinds r.content := by
  obtain ⟨type, value, name, content, members, named, flags, context⟩ := r
  cases h
  rfl

theorem anonymousKinds_of_string (h : r.type = .string) :
    r.anonymousKinds = r.stringValue?.toList := by
  obtain ⟨type, value, name, content, members, named, flags, context⟩ := r
  cases h
  rfl

theorem anonymousKinds_of_token (h : r.type.isToken = true) :
    r.anonymousKinds = (r.content.bind stringValue?).toList := by
  obtain ⟨type, value, name, content, members, named, flags, context⟩ := r
  cases type with
  | token | immediateToken => rfl
  | _ => cases h

theorem mem_renamedKinds : kind ∈ renamedKinds (some c) ↔
    c.isLexical = false ∧ kind ∈ c.anonymousKinds := by
  unfold renamedKinds
  cases c.isLexical <;> simp

/-! ## Places -/

/-- Whether what stands below a rule is part of a token: below a literal, below a token, and below
an alias whose content is a token. -/
def Covers (r : Rule) : Prop :=
  r.type = .string ∨ r.type.isToken = true ∨
    r.type = .aliased ∧ ∃ c, r.content = some c ∧ c.isLexical = true

/-- The second rule lies in the first one, and no rule above it covers what stands below. -/
inductive Uncovered : Rule → Rule → Prop
  | here {r : Rule} : Uncovered r r
  | down {r c s : Rule} : ¬ r.Covers → c ∈ r.children → Uncovered c s → Uncovered r s

/-- The second rule lies in the first one uncovered, and in the content of every alias above it. -/
inductive Reveals : Rule → Rule → Prop
  | here {r : Rule} : Reveals r r
  | down {r c s : Rule} : ¬ r.Covers → c ∈ r.children → (r.type = .aliased → r.content = some c) →
    Reveals c s → Reveals r s

/-- The anonymous kind that a rule yields by itself: the text of a literal, that of a literal which
is all of a token, and the name that an alias gives to an anonymous node. -/
inductive Yields : Rule → String → Prop
  | literal {r : Rule} {kind : String} : r.stringValue? = some kind → Yields r kind
  | token {r c : Rule} {kind : String} : r.type.isToken = true → r.content = some c →
    c.stringValue? = some kind → Yields r kind
  | renamed {r : Rule} {kind : String} : r.type = .aliased → r.isNamed = false →
    r.text? = some kind → Yields r kind

theorem stringValue?_eq_some :
    r.stringValue? = some kind ↔ r.type = .string ∧ r.text? = some kind := by
  simp [stringValue?]

theorem Yields.mem (h : r.Yields kind) : kind ∈ r.anonymousKinds := by
  cases h with
  | literal h =>
    rw [anonymousKinds_of_string (stringValue?_eq_some.mp h).1, h]
    exact List.mem_singleton_self kind
  | token ht hc h =>
    rw [anonymousKinds_of_token ht, hc, Option.bind_some, h]
    exact List.mem_singleton_self kind
  | renamed ha hn h =>
    rw [anonymousKinds_of_alias ha, hn, h]
    exact List.mem_append_left _ (List.mem_singleton_self kind)

/-- What is collected below a rule that does not cover it is collected for the rule. -/
theorem mem_anonymousKinds_of_below (hr : ¬ r.Covers) (hc : c ∈ r.children)
    (content : r.type = .aliased → r.content = some c) (h : kind ∈ c.anonymousKinds) :
    kind ∈ r.anonymousKinds := by
  rcases r.cases_of_walk with hs | ht | ha | ho
  · exact absurd (.inl hs) hr
  · exact absurd (.inr (.inl ht)) hr
  · have free : c.isLexical = false := by
      by_contra hl
      exact hr (.inr (.inr ⟨ha, c, content ha, by simpa using hl⟩))
    rw [anonymousKinds_of_alias ha, content ha]
    exact List.mem_append_right _ (mem_renamedKinds.mpr ⟨free, h⟩)
  · rw [anonymousKinds_of_open ho]
    exact List.mem_flatMap.mpr ⟨c, hc, h⟩

/-- What is collected for a rule is its own, or collected below it. -/
theorem yields_or_below (h : kind ∈ r.anonymousKinds) : r.Yields kind ∨
    ∃ c ∈ r.children, ¬ r.Covers ∧ (r.type = .aliased → r.content = some c) ∧
      kind ∈ c.anonymousKinds := by
  rcases r.cases_of_walk with hs | ht | ha | ho
  · rw [anonymousKinds_of_string hs, Option.mem_toList] at h
    exact .inl (.literal h)
  · rw [anonymousKinds_of_token ht, Option.mem_toList] at h
    obtain ⟨c, hc, h⟩ := Option.bind_eq_some_iff.mp h
    exact .inl (.token ht hc h)
  · rw [anonymousKinds_of_alias ha, List.mem_append] at h
    rcases h with h | h
    · cases hn : r.isNamed with
      | true => simp [hn] at h
      | false => exact .inl (.renamed ha hn (by simpa [hn] using h))
    · cases hc : r.content with
      | none =>
        rw [hc] at h
        cases h
      | some c =>
        rw [hc] at h
        obtain ⟨free, h⟩ := mem_renamedKinds.mp h
        have uncovered : ¬ r.Covers := by
          rintro (hs | ht | ⟨_, c', hc', hl⟩)
          · rw [ha] at hs; cases hs
          · rw [ha] at ht; cases ht
          · rw [Option.some.inj (hc.symm.trans hc'), hl] at free; cases free
        exact .inr ⟨c, mem_children.mpr (.inl hc), uncovered, fun _ => rfl, h⟩
  · rw [anonymousKinds_of_open ho] at h
    obtain ⟨c, hc, h⟩ := List.mem_flatMap.mp h
    have uncovered : ¬ r.Covers := by
      rintro (hs | ht | ⟨ha, _⟩)
      · exact ho.1 hs
      · rw [ho.2.1] at ht; cases ht
      · exact ho.2.2 ha
    exact .inr ⟨c, hc, uncovered, fun ha => absurd ha ho.2.2, h⟩

/-- **The anonymous kinds of a body are what the rules that it reveals yield.** -/
theorem mem_anonymousKinds : kind ∈ r.anonymousKinds ↔ ∃ s, r.Reveals s ∧ s.Yields kind := by
  constructor
  · intro h
    induction r using children_induction with
    | step r ih =>
      rcases yields_or_below h with own | ⟨c, hc, hr, content, h⟩
      · exact ⟨r, .here, own⟩
      · obtain ⟨s, hs, yields⟩ := ih c hc h
        exact ⟨s, .down hr hc content hs, yields⟩
  · rintro ⟨s, hs, yields⟩
    induction hs with
    | here => exact yields.mem
    | down hr hc content _ ih => exact mem_anonymousKinds_of_below hr hc content (ih yields)

end GrammarArtifact.Rule
