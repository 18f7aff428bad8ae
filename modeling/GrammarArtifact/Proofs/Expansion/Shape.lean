import Mathlib.Data.List.Basic
import GrammarArtifact.NodeType.Expansion
import GrammarArtifact.Proofs.Rule.Tree
import GrammarArtifact.Rule.Build

/-! # The shape of a rule

A rule has seventeen kinds and eight attributes, but a summary tells only eight
shapes apart: nothing, one node, a hidden rule to expand, and five constructions
over smaller rules. This file reads the shape off a rule, rewrites
`Grammar.summarize` as one equation over shapes, in which the bound on the
nesting no longer occurs, and packages the recursion behind that equation as an
induction principle. -/

namespace GrammarArtifact

/-- What a summary sees of a rule. -/
inductive Shape where
  | nothing
  | node (ref : NodeRef)
  /-- A reference to a hidden rule with this body, which is no token. -/
  | hidden (name : String) (body : Rule)
  | seq (members : List Rule)
  | choice (members : List Rule)
  | repeated (atLeastOnce : Bool) (content : Rule)
  | field (name : String) (content : Rule)
  /-- A construction that shows its content as it is. -/
  | wrapper (content : Rule)
  deriving DecidableEq

namespace Shape

/-- A node of the given kind; nothing if there is no text for it. -/
def ofKind? (named : Bool) : Option String → Shape
  | none => .nothing
  | some kind => .node ⟨kind, named⟩

theorem ofKind?_eq (named : Bool) (text : Option String) :
    ofKind? named text = .nothing ∨ ∃ kind, ofKind? named text = .node ⟨kind, named⟩ := by
  cases text with
  | none => exact .inl rfl
  | some kind => exact .inr ⟨kind, rfl⟩

/-- The smaller rules in which a summary looks for nodes of the same fields. -/
def parts : Shape → List Rule
  | .seq members | .choice members => members
  | .repeated _ content | .wrapper content => [content]
  | .nothing | .node _ | .hidden _ _ | .field _ _ => []

/-- The smaller rules that a shape holds, the content of a field among them. -/
def inner : Shape → List Rule
  | .seq members | .choice members => members
  | .repeated _ content | .field _ content | .wrapper content => [content]
  | .nothing | .node _ | .hidden _ _ => []

theorem mem_inner_of_parts {s : Shape} {m : Rule} (h : m ∈ s.parts) : m ∈ s.inner := by
  cases s with
  | nothing | node _ | hidden _ _ | field _ _ => cases h
  | _ => exact h

/-- Whether a shape leaves the rule and the field that it is in. -/
def isPlain : Shape → Bool
  | .hidden _ _ | .field _ _ => false
  | _ => true

end Shape

namespace Rule

/-- A construction that lacks its content is read as one of the empty text. -/
def contentOrBlank (r : Rule) : Rule := r.content.getD blank

end Rule

namespace Grammar

/-- The body that a summary expands in place of a reference. -/
def hiddenBody? (g : Grammar) (name : String) : Option Rule :=
  if g.isHidden name then (g.rule? name).filter fun body => !body.isLexical else none

/-- The shape of a reference. A visible name is a node if anything bears it; a hidden name stands
for the body of its rule, and for nothing if the rule is a token or there is none. -/
def referenceShape (g : Grammar) (name : String) : Shape :=
  if g.isHidden name then
    match g.hiddenBody? name with
    | some body => .hidden name body
    | none => .nothing
  else if g.defines name then .node ⟨name, true⟩
  else .nothing

/-- The shape of a rule. -/
def shape (g : Grammar) (r : Rule) : Shape :=
  match r.type with
  | .blank | .pattern => .nothing
  | .string => .ofKind? false r.text?
  | .token | .immediateToken => .ofKind? false (r.content.bind Rule.stringValue?)
  | .symbol => r.name.elim .nothing g.referenceShape
  | .aliased => .ofKind? r.isNamed r.text?
  | .seq => .seq r.members
  | .choice => .choice r.members
  | .repeated => .repeated false r.contentOrBlank
  | .repeated1 => .repeated true r.contentOrBlank
  | .field => r.name.elim (.wrapper r.contentOrBlank) (.field · r.contentOrBlank)
  | .prec | .precLeft | .precRight | .precDynamic | .reserved => .wrapper r.contentOrBlank

@[simp] theorem shape_blank (g : Grammar) : g.shape .blank = .nothing := rfl

/-- Whatever a shape holds is taken from the rule. -/
theorem shape_inner (g : Grammar) (r : Rule) :
    match g.shape r with
    | .nothing | .node _ | .hidden _ _ => True
    | .seq members | .choice members => members = r.members
    | .repeated _ content | .field _ content | .wrapper content => content = r.contentOrBlank := by
  have kind := Shape.ofKind?_eq
  obtain ⟨type, value, ref, content, members, named, flags, context⟩ := r
  cases type with
  | symbol =>
    cases ref with
    | none => simp [shape]
    | some ref =>
      simp only [shape, Option.elim_some, referenceShape]
      grind
  | field => cases ref <;> simp [shape]
  | string | token | immediateToken | aliased =>
    simp only [shape]
    grind
  | _ => simp [shape]

/-- Only a reference has the shape of a hidden rule, and it has the one of the name it refers to. -/
theorem reference_of_shape {g : Grammar} {r body : Rule} {name : String}
    (h : g.shape r = .hidden name body) :
    r.type = .symbol ∧ r.name = some name ∧ g.hiddenBody? name = some body := by
  have kind : ∀ named text, Shape.ofKind? named text ≠ .hidden name body := by
    intro named text; cases text <;> simp [Shape.ofKind?]
  obtain ⟨type, value, ref, content, members, named, flags, context⟩ := r
  cases type with
  | symbol =>
    cases ref with
    | none => simp [shape] at h
    | some ref =>
      simp only [shape, Option.elim_some, referenceShape] at h
      split at h
      · split at h
        · rename_i hb
          cases h
          exact ⟨rfl, rfl, hb⟩
        · cases h
      · split at h <;> cases h
  | field => cases ref <;> simp [shape] at h
  | _ => simp [shape, kind] at h

theorem hiddenBody?_of_shape {g : Grammar} {r body : Rule} {name : String}
    (h : g.shape r = .hidden name body) : g.hiddenBody? name = some body :=
  (reference_of_shape h).2.2

theorem rule?_of_hiddenBody? {g : Grammar} {name : String} {body : Rule}
    (h : g.hiddenBody? name = some body) :
    g.isHidden name = true ∧ g.rule? name = some body ∧ body.isLexical = false := by
  unfold hiddenBody? at h
  split at h
  · rename_i hidden
    obtain ⟨hr, hl⟩ := Option.filter_eq_some_iff.mp h
    exact ⟨hidden, hr, by simpa using hl⟩
  · cases h

theorem mem_ruleNames_of_hiddenBody? {g : Grammar} {name : String} {body : Rule}
    (h : g.hiddenBody? name = some body) : name ∈ g.ruleNames := by
  obtain ⟨_, hr, _⟩ := rule?_of_hiddenBody? h
  rw [rule?] at hr
  exact Std.ExtTreeMap.mem_keys.mpr (Std.ExtTreeMap.mem_iff_isSome_getElem?.mpr (by simp [hr]))

theorem expansion?_eq (g : Grammar) (inside : List String) (name : String) :
    g.expansion? inside name = if name ∈ inside then none else g.hiddenBody? name := by
  by_cases hm : name ∈ inside <;> simp [expansion?, hiddenBody?, hm]

theorem expansion?_eq_some {g : Grammar} {inside : List String} {name : String} {body : Rule} :
    g.expansion? inside name = some body ↔ name ∉ inside ∧ g.hiddenBody? name = some body := by
  rw [expansion?_eq]
  split <;> simp [*]

end Grammar

/-! ## Summaries over shapes -/

namespace Summary

def sequence : List Summary → Summary
  | [] => {}
  | s :: rest => s.append (sequence rest)

def choice : List Summary → Summary
  | [] => {}
  | [s] => s
  | s :: rest => s.either (choice rest)

/-- What holds of nothing and of each branch holds of a choice, if it is kept between two. -/
theorem choice_induction {P : Summary → Prop} (empty : P {})
    (both : ∀ s t, P s → P t → P (s.either t)) {l : List Summary} (branches : ∀ s ∈ l, P s) :
    P (choice l) := by
  induction l with
  | nil => exact empty
  | cons s rest ih =>
    obtain ⟨first, others⟩ := List.forall_mem_cons.mp branches
    cases rest with
    | nil => exact first
    | cons s' rest => exact both s _ first (ih others)

/-- A single node of a kind. -/
def ofNode (ref : NodeRef) : Summary :=
  if ref.named then .named ref.kind else .anonymous (some ref.kind)

/-- The summary of a shape from the summaries of its parts and of the bodies of hidden rules. -/
def ofShape (part : Rule → Summary) (unfold : String → Rule → Summary) : Shape → Summary
  | .nothing => {}
  | .node ref => .ofNode ref
  | .hidden name body => unfold name body
  | .seq members => .sequence (members.map part)
  | .choice members => .choice (members.map part)
  | .repeated atLeastOnce content => (part content).repeated atLeastOnce
  | .field name content => (part content).inField name
  | .wrapper content => part content

/-- The summary of a shape looks at the rules that the shape holds, and at no others. -/
theorem ofShape_congr {part part' : Rule → Summary} {unfold unfold' : String → Rule → Summary}
    {s : Shape} (inner : ∀ m ∈ s.inner, part m = part' m)
    (hidden : ∀ name body, s = .hidden name body → unfold name body = unfold' name body) :
    ofShape part unfold s = ofShape part' unfold' s := by
  cases s with
  | nothing | node ref => rfl
  | hidden name body => exact hidden name body rfl
  | seq members | choice members =>
    have same : members.map part = members.map part' := List.map_congr_left inner
    rw [ofShape, ofShape, same]
  | repeated atLeastOnce c | field name c | wrapper c =>
    rw [ofShape, ofShape, inner c List.mem_cons_self]

theorem ofShape_ofKind? (part : Rule → Summary) (unfold : String → Rule → Summary) (named : Bool)
    (text : Option String) : ofShape part unfold (.ofKind? named text) =
      text.elim {} fun kind => if named then .named kind else .anonymous (some kind) := by
  cases text <;> rfl

end Summary

namespace Rule

theorem contentSummary_eq (expand : String → Summary) (r : Rule) :
    contentSummary expand r.content = r.contentOrBlank.summary expand := by
  unfold contentOrBlank
  cases r.content <;> simp [contentSummary, blank, summary]

theorem sequenceSummary_eq (expand : String → Summary) (members : List Rule) :
    sequenceSummary expand members = .sequence (members.map (·.summary expand)) := by
  induction members with
  | nil => rfl
  | cons m ms ih => simp [sequenceSummary, Summary.sequence, ih]

theorem choiceSummary_eq (expand : String → Summary) (members : List Rule) :
    choiceSummary expand members = .choice (members.map (·.summary expand)) := by
  induction members with
  | nil => rfl
  | cons m ms ih =>
    cases ms with
    | nil => rfl
    | cons m' ms => simpa [choiceSummary, Summary.choice] using congrArg _ ih

end Rule

namespace Grammar

/-- The summary of a reference is that of its shape. -/
theorem referenceSummary_eq (g : Grammar) (inside : List String) (part : Rule → Summary)
    (unfold : String → Rule → Summary) (name : String) :
    g.referenceSummary inside (unfold name) name =
      .ofShape part (fun name body => if name ∈ inside then {} else unfold name body)
        (g.referenceShape name) := by
  unfold referenceSummary referenceShape
  rw [expansion?_eq]
  by_cases hh : g.isHidden name = true
  · simp only [hh, Bool.not_true, if_true, Bool.false_eq_true, if_false]
    cases hb : g.hiddenBody? name with
    | none => simp [Summary.ofShape]
    | some body =>
      have hd : g.defines name = true := by
        have := Std.ExtTreeMap.mem_keys.mp (mem_ruleNames_of_hiddenBody? hb)
        simp [defines, this]
      by_cases hm : name ∈ inside <;> simp [Summary.ofShape, hd, hm]
  · by_cases hd : g.defines name = true <;> simp [Summary.ofShape, Summary.ofNode, hh, hd]

/-- The summary of a rule is that of its shape. -/
theorem summary_eq_ofShape (g : Grammar) (inside : List String)
    (unfold : String → Rule → Summary) (r : Rule) :
    r.summary (fun name => g.referenceSummary inside (unfold name) name) =
      .ofShape (·.summary fun name => g.referenceSummary inside (unfold name) name)
        (fun name body => if name ∈ inside then {} else unfold name body) (g.shape r) := by
  have content :=
    Rule.contentSummary_eq (fun name => g.referenceSummary inside (unfold name) name) r
  obtain ⟨type, value, ref, content', members, named, flags, context⟩ := r
  cases type with
  | symbol =>
    cases ref with
    | none => simp [Rule.summary, shape, Summary.ofShape]
    | some ref => simpa [Rule.summary, shape] using referenceSummary_eq g inside _ unfold ref
  | aliased =>
    simp only [Rule.summary, shape, Summary.ofShape_ofKind?]
    cases Rule.text? _ <;> rfl
  | field => cases ref <;> simp_all [Rule.summary, shape, Summary.ofShape]
  | seq => simp [Rule.summary, shape, Summary.ofShape, Rule.sequenceSummary_eq]
  | choice => simp [Rule.summary, shape, Summary.ofShape, Rule.choiceSummary_eq]
  | blank | pattern => simp [Rule.summary, shape, Summary.ofShape]
  | string =>
    simp only [Rule.summary, shape, Summary.ofShape_ofKind?]
    cases Rule.text? _ <;> rfl
  | token | immediateToken =>
    simp only [Rule.summary, shape, Summary.ofShape_ofKind?, Rule.tokenText?]
    cases content'.bind Rule.stringValue? <;> rfl
  | _ => simp_all [Rule.summary, shape, Summary.ofShape]

/-! ## The bound on the nesting -/

/-- How many rules can still be expanded. -/
def unexpanded (g : Grammar) (inside : List String) : Nat :=
  (g.ruleNames.filter fun name => !inside.contains name).length

theorem unexpanded_le_size (g : Grammar) (inside : List String) :
    g.unexpanded inside ≤ g.rules.size := by
  have h : g.ruleNames.length = g.rules.size := Std.ExtTreeMap.length_keys
  exact h ▸ List.length_filter_le _ _

/-- Expanding a rule that is not being expanded leaves fewer rules. -/
theorem unexpanded_lt {g : Grammar} {inside : List String} {name : String}
    (hn : name ∈ g.ruleNames) (hi : name ∉ inside) :
    g.unexpanded (name :: inside) < g.unexpanded inside := by
  have split : g.ruleNames.filter (fun n => !(name :: inside).contains n) =
      (g.ruleNames.filter fun n => !inside.contains n).filter (· != name) := by
    rw [List.filter_filter]
    apply List.filter_congr
    intro n _
    by_cases h : n = name <;> simp [h]
  have mem : name ∈ g.ruleNames.filter fun n => !inside.contains n := by simp [hn, hi]
  unfold unexpanded
  rw [split]
  exact List.length_filter_lt_length_iff_exists.mpr ⟨name, mem, by simp⟩

theorem referenceSummary_congr {g : Grammar} {inside : List String} {name : String}
    {f f' : Rule → Summary}
    (h : ∀ body, g.hiddenBody? name = some body → name ∉ inside → f body = f' body) :
    g.referenceSummary inside f name = g.referenceSummary inside f' name := by
  unfold referenceSummary
  rw [expansion?_eq]
  by_cases hm : name ∈ inside
  · simp [hm]
  · cases hb : g.hiddenBody? name with
    | none => simp
    | some body => simp [hm, h body hb hm]

/-- Room for the rules that can still be expanded is as good as any more room. -/
theorem summaryWithin_succ {g : Grammar} (room : Nat) :
    ∀ inside, g.unexpanded inside ≤ room →
      g.summaryWithin (room + 1) inside = g.summaryWithin room inside := by
  induction room with
  | zero =>
    intro inside h
    funext r
    simp only [summaryWithin]
    congr 1
    funext name
    -- no rule is left to expand, so either side cuts every hidden name off
    unfold referenceSummary
    rw [expansion?_eq, expansion?_eq]
    cases hb : g.hiddenBody? name with
    | none => simp
    | some body =>
      have hm : name ∈ inside := by
        by_contra hm
        have := unexpanded_lt (mem_ruleNames_of_hiddenBody? hb) hm
        omega
      simp [hm]
  | succ room ih =>
    intro inside h
    funext r
    rw [summaryWithin, summaryWithin]
    congr 1
    funext name
    apply referenceSummary_congr
    intro body hb hm
    have := unexpanded_lt (mem_ruleNames_of_hiddenBody? hb) hm
    rw [ih (name :: inside) (by omega)]

theorem summaryWithin_eq_summarize {g : Grammar} {room : Nat} {inside : List String}
    (h : g.unexpanded inside ≤ room) (hr : room ≤ g.rules.size) :
    g.summaryWithin room inside = g.summarize inside := by
  unfold summarize
  obtain ⟨extra, hx⟩ := Nat.exists_eq_add_of_le hr
  rw [hx]
  clear hx hr
  induction extra with
  | zero => rfl
  | succ extra ih => rw [ih, ← Nat.add_assoc, summaryWithin_succ (room + extra) inside (by omega)]

/-- The summary of a hidden rule that is met while the rules in `inside` are being expanded. -/
def unfolded (g : Grammar) (inside : List String) (name : String) (body : Rule) : Summary :=
  if name ∈ inside then {} else g.summarize (name :: inside) body

/-- A summary is that of the tree alone, with what the references in it add in this place. -/
theorem summarize_eq_summary (g : Grammar) (inside : List String) (r : Rule) :
    g.summarize inside r = r.summary fun name =>
      g.referenceSummary inside (g.summarize (name :: inside)) name := by
  rw [← summaryWithin_eq_summarize (unexpanded_le_size g inside) (Nat.le_refl _),
    ← summaryWithin_succ _ _ (unexpanded_le_size g inside)]
  rfl

/-- **The summary of a rule follows its shape.** The parts are summarized in the same place, and
the body of a hidden rule inside of that rule. -/
theorem summarize_eq (g : Grammar) (inside : List String) (r : Rule) :
    g.summarize inside r = .ofShape (g.summarize inside) (g.unfolded inside) (g.shape r) := by
  have shaped := summary_eq_ofShape g inside (fun name => g.summarize (name :: inside)) r
  simp only [← summarize_eq_summary] at shaped
  exact shaped

/-- Induction along the expansion of a rule: over its parts in the same place, and over the body
of a hidden rule inside of that rule. -/
theorem expansion_induction (g : Grammar) {motive : List String → Rule → Prop}
    (nothing : ∀ inside r, g.shape r = .nothing → motive inside r)
    (node : ∀ inside r ref, g.shape r = .node ref → motive inside r)
    (cut : ∀ inside r name body, g.shape r = .hidden name body → name ∈ inside → motive inside r)
    (hidden : ∀ inside r name body, g.shape r = .hidden name body → name ∉ inside →
      motive (name :: inside) body → motive inside r)
    (seq : ∀ inside r members, g.shape r = .seq members →
      (∀ m ∈ members, motive inside m) → motive inside r)
    (choice : ∀ inside r members, g.shape r = .choice members →
      (∀ m ∈ members, motive inside m) → motive inside r)
    (repeated : ∀ inside r atLeastOnce content, g.shape r = .repeated atLeastOnce content →
      motive inside content → motive inside r)
    (field : ∀ inside r name content, g.shape r = .field name content →
      motive inside content → motive inside r)
    (wrapper : ∀ inside r content, g.shape r = .wrapper content →
      motive inside content → motive inside r)
    (inside : List String) (r : Rule) : motive inside r := by
  induction hn : g.unexpanded inside using Nat.strongRecOn generalizing inside r with
  | _ n deeper =>
    subst hn
    induction r using Rule.tree_induction with
    | step r hc hm =>
      have content : motive inside r.contentOrBlank := by
        unfold Rule.contentOrBlank
        cases h : r.content with
        | none => exact nothing inside _ g.shape_blank
        | some c => exact hc c h
      have inner := g.shape_inner r
      cases h : g.shape r with
      | nothing => exact nothing inside r h
      | node ref => exact node inside r ref h
      | hidden name body =>
        by_cases hi : name ∈ inside
        · exact cut inside r name body h hi
        · have hn := mem_ruleNames_of_hiddenBody? (hiddenBody?_of_shape h)
          exact hidden inside r name body h hi (deeper _ (unexpanded_lt hn hi) _ _ rfl)
      | seq members =>
        rw [h] at inner
        exact seq inside r members h (inner ▸ hm)
      | choice members =>
        rw [h] at inner
        exact choice inside r members h (inner ▸ hm)
      | repeated atLeastOnce c =>
        rw [h] at inner
        exact repeated inside r atLeastOnce c h (inner ▸ content)
      | field name c =>
        rw [h] at inner
        exact field inside r name c h (inner ▸ content)
      | wrapper c =>
        rw [h] at inner
        exact wrapper inside r c h (inner ▸ content)

/-- The same induction, for what need not tell the shapes apart. -/
theorem inner_induction (g : Grammar) {motive : List String → Rule → Prop}
    (step : ∀ inside r, (∀ m ∈ (g.shape r).inner, motive inside m) →
      (∀ name body, g.shape r = .hidden name body → name ∉ inside →
        motive (name :: inside) body) → motive inside r)
    (inside : List String) (r : Rule) : motive inside r := by
  induction inside, r using g.expansion_induction with
  | nothing inside r h | node inside r _ h =>
    exact step inside r (by simp [h, Shape.inner]) (by simp [h])
  | cut inside r name body h hm =>
    refine step inside r (by simp [h, Shape.inner]) ?_
    intro other body' h' hn
    obtain ⟨rfl, rfl⟩ := Shape.hidden.inj (h.symm.trans h')
    exact absurd hm hn
  | hidden inside r name body h _ ih =>
    refine step inside r (by simp [h, Shape.inner]) ?_
    intro other body' h' _
    obtain ⟨rfl, rfl⟩ := Shape.hidden.inj (h.symm.trans h')
    exact ih
  | seq inside r members h ih | choice inside r members h ih =>
    exact step inside r (by simpa [h, Shape.inner] using ih) (by simp [h])
  | repeated inside r _ c h ih | field inside r _ c h ih | wrapper inside r c h ih =>
    exact step inside r (by simpa [h, Shape.inner] using ih) (by simp [h])

end Grammar
end GrammarArtifact
