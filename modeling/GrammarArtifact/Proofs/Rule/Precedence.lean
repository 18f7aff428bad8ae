import Mathlib.Data.List.Forall2
import GrammarArtifact.Proofs.Expansion.Shape
import GrammarArtifact.Proofs.Rule.Literals

/-! # Precedences around rules

A precedence says which parse to prefer, and nothing about the nodes of a parse. Two
bodies are alike if node types cannot tell them apart; this is a congruence, apart from
two constructions that look at the rule directly inside them: a token shows the literal
that it holds, and a named alias has the structure of the rule that it refers to. So a
body stays alike when a precedence is put around a rule in it, as long as it does not
come between a token and its literal or between an alias and its reference. -/

namespace GrammarArtifact.Rule
variable {r r' s s' c c' : Rule}

/-- The first rule is a precedence around the second one. -/
structure Surrounds (w r : Rule) : Prop where
  precedence : w.type.isPrecedence = true
  content : w.content = some r
  members : w.members = []

/-- A rule shows the same of its content: the literal if it is a token, and the reference if it is a
named alias. -/
structure Sees (r c c' : Rule) : Prop where
  literal : r.type.isToken = true → c.stringValue? = c'.stringValue?
  reference : r.type = .aliased → r.isNamed = true → c.symbolName? = c'.symbolName?

/-- The second rule is the first one with a precedence around one of the rules in it, which is not
the literal directly inside a token and not the reference directly inside a named alias. -/
inductive Wraps : Rule → Rule → Prop
  | here {r w : Rule} : w.Surrounds r → Wraps r w
  | content {r c c' : Rule} : r.content = some c → Wraps c c' → r.Sees c c' →
    Wraps r { r with content := some c' }
  | member {r m m' : Rule} {before after : List Rule} : r.members = before ++ m :: after →
    Wraps m m' → Wraps r { r with members := before ++ m' :: after }

/-! ## Bodies that are alike -/

/-- The node types of two bodies are the same. -/
structure SameType (r r' : Rule) : Prop where
  lexical : r.isLexical = r'.isLexical
  summary : ∀ expand, r.summary expand = r'.summary expand

/-- Two rules add the same nodes to any rule around them. -/
structure SameNodes (r r' : Rule) : Prop extends SameType r r' where
  tokenized : r.isTokenized = r'.isTokenized

/-- Two aliases give the same name to the same. -/
structure SameAlias (a a' : String × Rule) : Prop extends SameType a.2 a'.2 where
  name : a.1 = a'.1
  reference : a.2.symbolName? = a'.2.symbolName?

def aliases (r : Rule) : List (String × Rule) := r.preorder.filterMap namedAlias?

/-- The tables of node types cannot tell two bodies apart. -/
structure Alike (r r' : Rule) : Prop extends SameType r r' where
  tokenized : r.isTokenized = r'.isTokenized
  kinds : r.anonymousKinds = r'.anonymousKinds
  aliases : List.Forall₂ SameAlias r.aliases r'.aliases

theorem SameType.refl (r : Rule) : r.SameType r := ⟨rfl, fun _ => rfl⟩

theorem SameType.symm (h : r.SameType r') : r'.SameType r :=
  ⟨h.lexical.symm, fun expand => (h.summary expand).symm⟩

theorem SameAlias.refl (a : String × Rule) : SameAlias a a := ⟨.refl a.2, rfl, rfl⟩

theorem SameAlias.symm {a a' : String × Rule} (h : SameAlias a a') : SameAlias a' a :=
  ⟨h.toSameType.symm, h.name.symm, h.reference.symm⟩

theorem Alike.refl (r : Rule) : r.Alike r :=
  ⟨.refl r, rfl, rfl, List.forall₂_same.mpr fun a _ => .refl a⟩

theorem Alike.sameNodes (h : r.Alike r') : r.SameNodes r' := ⟨h.toSameType, h.tokenized⟩

theorem Alike.symm (h : r.Alike r') : r'.Alike r :=
  ⟨h.toSameType.symm, h.tokenized.symm, h.kinds.symm, h.aliases.flip.imp fun _ _ => .symm⟩

theorem aliases_eq (r : Rule) :
    r.aliases = r.namedAlias?.toList ++ r.children.flatMap aliases := by
  unfold aliases
  rw [preorder_eq, List.filterMap_cons, List.filterMap_flatMap]
  cases r.namedAlias? <;> rfl

/-! ## Rules made of rules that are alike -/

section related
variable {R : Rule → Rule → Prop} {α : Type}

/-- What is the same for related rules is the same along related members. -/
theorem map_congr {f f' : Rule → α} {ms ms' : List Rule} (h : List.Forall₂ R ms ms')
    (same : ∀ r r', R r r' → f r = f' r') : ms.map f = ms'.map f' := by
  induction h with
  | nil => rfl
  | cons hm _ ih => rw [List.map_cons, List.map_cons, same _ _ hm, ih]

theorem content_congr (f : Option Rule → α) {content content' : Option Rule}
    (h : Option.Rel R content content')
    (same : ∀ r r', R r r' → f (some r) = f (some r')) : f content = f content' := by
  cases h with
  | none => rfl
  | some h => exact same _ _ h

theorem rel_imp {R' : Rule → Rule → Prop} {content content' : Option Rule}
    (h : Option.Rel R content content') (weaker : ∀ r r', R r r' → R' r r') :
    Option.Rel R' content content' := by
  cases h with
  | none => exact .none
  | some h => exact .some (weaker _ _ h)

end related

theorem allTokenized_eq (ms : List Rule) : allTokenized ms = (ms.map isTokenized).all id := by
  induction ms with
  | nil => rfl
  | cons m ms ih => rw [allTokenized, ih, List.map_cons, List.all_cons, id]

theorem namedAlias?_congr (ht : r.type = r'.type) (hn : r.isNamed = r'.isNamed)
    (hv : r.text? = r'.text?) (hc : Option.Rel Alike r.content r'.content)
    (sees : Option.Rel r.Sees r.content r'.content) :
    Option.Rel SameAlias r.namedAlias? r'.namedAlias? := by
  unfold namedAlias?
  rw [← ht, ← hn, ← hv]
  generalize r.content = content, r'.content = content' at hc sees
  by_cases h : r.type = .aliased ∧ r.isNamed = true
  · simp only [h.1, h.2, decide_true, Bool.and_self, if_true]
    cases r.text? with
    | none => exact .none
    | some name =>
      cases hc with
      | none => exact .none
      | some same =>
        cases sees with
        | some seen => exact .some ⟨same.toSameType, rfl, seen.reference h.1 h.2⟩
  · rw [if_neg (by simpa using h), if_neg (by simpa using h)]
    exact .none

/-- The aliases in a rule are its own and those in its children. -/
theorem aliases_congr (own : Option.Rel SameAlias r.namedAlias? r'.namedAlias?)
    (hc : Option.Rel Alike r.content r'.content) (hm : List.Forall₂ Alike r.members r'.members) :
    List.Forall₂ SameAlias r.aliases r'.aliases := by
  have children : List.Forall₂ Alike r.children r'.children := by
    unfold children
    generalize r.content = content, r'.content = content' at hc
    refine List.rel_append ?_ hm
    cases hc with
    | none => exact .nil
    | some same => exact .cons same .nil
  rw [aliases_eq, aliases_eq]
  refine List.rel_append ?_ (List.rel_flatMap children fun _ _ same => same.aliases)
  generalize r.namedAlias? = a, r'.namedAlias? = a' at own
  cases own with
  | none => exact .nil
  | some same => exact .cons same .nil

/-- **A rule adds the same nodes when its content and its members do**, if a token keeps the literal
that it shows. -/
theorem SameNodes.congr {content' : Option Rule} {ms' : List Rule}
    (hc : Option.Rel SameNodes r.content content') (hm : List.Forall₂ SameNodes r.members ms')
    (literal : r.type.isToken = true →
      r.content.bind stringValue? = content'.bind stringValue?) :
    r.SameNodes { r with content := content', members := ms' } := by
  obtain ⟨type, value, name, content, ms, named, flags, context⟩ := r
  have lexical := content_congr contentLexical hc fun _ _ h => h.lexical
  have tokenized := content_congr contentTokenized hc fun _ _ h => h.tokenized
  have allTokenized : allTokenized ms = allTokenized ms' := by
    rw [allTokenized_eq, allTokenized_eq, map_congr hm fun _ _ h => h.tokenized]
  refine ⟨⟨?lexical, ?summary⟩, ?tokenized⟩
  case lexical =>
    have empty : ms.isEmpty = ms'.isEmpty := by cases hm <;> rfl
    cases type <;> simp [isLexical, lexical, allTokenized, empty]
  case summary =>
    intro expand
    have content := content_congr (contentSummary expand) hc fun _ _ h => h.summary expand
    have members := map_congr hm fun _ _ h => h.summary expand
    cases type with
    | string | aliased => rfl
    | token | immediateToken => simp only [summary, tokenText?, literal rfl]
    | field => cases name <;> simp [summary, content]
    | _ => simp [summary, content, sequenceSummary_eq, choiceSummary_eq, members]
  case tokenized => cases type <;> simp [isTokenized, tokenized, allTokenized]

/-- **A rule stays alike when its content and its members do**, if it sees the same of its
content. -/
theorem Alike.congr {type : RuleType} {value : Option RuleValue} {named : Option Bool}
    {name flags context : Option String} {content content' : Option Rule} {ms ms' : List Rule}
    (hc : Option.Rel Alike content content') (hm : List.Forall₂ Alike ms ms')
    (sees : Option.Rel (Sees ⟨type, value, name, content, ms, named, flags, context⟩)
      content content') :
    Alike ⟨type, value, name, content, ms, named, flags, context⟩
      ⟨type, value, name, content', ms', named, flags, context⟩ := by
  have literal : type.isToken = true → content.bind stringValue? = content'.bind stringValue? := by
    intro ht
    cases sees with
    | none => rfl
    | some seen => exact seen.literal ht
  have kinds := content_congr contentKinds hc fun _ _ h => h.kinds
  have renamed := content_congr renamedKinds hc fun _ _ h => by
    rw [renamedKinds, renamedKinds, h.lexical, h.kinds]
  have memberKinds : memberKinds ms = memberKinds ms' := by
    rw [memberKinds_eq, memberKinds_eq, List.flatMap_def, List.flatMap_def,
      map_congr hm fun _ _ h => h.kinds]
  have nodes := SameNodes.congr
    (r := ⟨type, value, name, content, ms, named, flags, context⟩)
    (rel_imp hc fun _ _ h => h.sameNodes) (hm.imp fun _ _ h => h.sameNodes) literal
  refine ⟨nodes.toSameType, nodes.tokenized, ?kinds, ?aliases⟩
  case kinds =>
    cases type with
    | string => rfl
    | aliased =>
      rw [anonymousKinds, anonymousKinds, renamed]
      rfl
    | token | immediateToken => simp only [anonymousKinds, literal rfl]
    | _ => simp [anonymousKinds, kinds, memberKinds]
  case aliases => exact aliases_congr (namedAlias?_congr rfl rfl rfl hc sees) hc hm

/-! ## Precedences -/

theorem Sees.refl (r c : Rule) : r.Sees c c := ⟨fun _ => rfl, fun _ _ => rfl⟩

theorem rel_refl {R : Rule → Rule → Prop} (h : ∀ r, R r r) (content : Option Rule) :
    Option.Rel R content content := by
  cases content with
  | none => exact .none
  | some r => exact .some (h r)

theorem eq_of_isPrecedence {t : RuleType} (h : t.isPrecedence = true) :
    t = .prec ∨ t = .precLeft ∨ t = .precRight ∨ t = .precDynamic := by
  cases t <;> simp_all [RuleType.isPrecedence]

theorem Surrounds.aliases_eq {w : Rule} (h : w.Surrounds r) : w.aliases = r.aliases := by
  have none : w.namedAlias? = none := by
    unfold namedAlias?
    rcases eq_of_isPrecedence h.precedence with ht | ht | ht | ht <;> simp [ht]
  rw [Rule.aliases_eq, none, children, h.content, h.members]
  simp

/-- A precedence is like the rule that it surrounds. -/
theorem Surrounds.alike {w : Rule} (h : w.Surrounds r) : r.Alike w := by
  have aliases : List.Forall₂ SameAlias r.aliases w.aliases := by
    rw [h.aliases_eq]
    exact (Alike.refl r).aliases
  obtain ⟨type, value, name, content, members, named, flags, context⟩ := w
  obtain ⟨precedence, hc, hm⟩ := h
  cases hc
  cases hm
  have kinds : r.anonymousKinds = contentKinds (some r) ++ memberKinds [] := by
    simp [contentKinds, memberKinds]
  -- Each of the four kinds hands all other questions on to its content.
  rcases eq_of_isPrecedence precedence with rfl | rfl | rfl | rfl
  all_goals exact ⟨⟨rfl, fun _ => rfl⟩, rfl, kinds, aliases⟩

/-- **A body stays alike when a precedence is put around a rule in it.** -/
theorem Wraps.alike (h : r.Wraps r') : r.Alike r' := by
  induction h with
  | here h => exact h.alike
  | @content r c c' hc _ sees ih =>
    obtain ⟨type, value, name, content, members, named, flags, context⟩ := r
    cases hc
    exact .congr (.some ih) (List.forall₂_same.mpr fun m _ => .refl m) (.some sees)
  | @member r m m' before after hm _ ih =>
    obtain ⟨type, value, name, content, members, named, flags, context⟩ := r
    cases hm
    have same : ∀ ms : List Rule, List.Forall₂ Alike ms ms :=
      fun ms => List.forall₂_same.mpr fun m _ => .refl m
    exact .congr (rel_refl .refl content) (List.rel_append (same before) (.cons ih (same after)))
      (rel_refl (Sees.refl _) content)

end GrammarArtifact.Rule
