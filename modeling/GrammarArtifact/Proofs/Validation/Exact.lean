import GrammarArtifact.Proofs.Validation.Search

/-! # The checks decide the documented conditions

A grammar without faults is one that meets the conditions, and a place has at most one
fault. With the search for the first fault this says exactly what a check of a grammar
answers. -/

namespace GrammarArtifact
namespace Grammar
variable {check : PatternCheck} {g : Grammar} {p : Position} {e e' : ValidationError}

/-- **At every place at most one thing is wrong.** -/
theorem Fault.functional (h : g.Fault check p e) (h' : g.Fault check p e') : e = e' := by
  cases h with
  | start hs =>
    cases h' with
    | start hs' => rw [hs] at hs'; cases hs'; rfl
  | symbol hr w _ hn _ =>
    cases h' with
    | symbol hr' w' _ hn' _ =>
      obtain rfl := Option.some.inj (hr.symm.trans hr')
      obtain ⟨_, rfl⟩ := w.functional w'
      obtain rfl := Option.some.inj (hn.symm.trans hn')
      rfl
  | name hl hi _ =>
    cases h' with
    | name hl' hi' _ =>
      obtain rfl := Sum.inl.inj (hl.symm.trans hl')
      obtain rfl := Option.some.inj (hi.symm.trans hi')
      rfl
    | reference hl' => cases hl.symm.trans hl'
  | reference hl hi w _ hn _ =>
    cases h' with
    | name hl' => cases hl.symm.trans hl'
    | reference hl' hi' w' _ hn' _ =>
      obtain rfl := Sum.inr.inj (hl.symm.trans hl')
      obtain rfl := Option.some.inj (hi.symm.trans hi')
      obtain ⟨_, rfl⟩ := w.functional w'
      obtain rfl := Option.some.inj (hn.symm.trans hn')
      rfl
  | pattern hr hs ht hd =>
    cases h' with
    | pattern hr' hs' _ hd' =>
      obtain rfl := Option.some.inj (hr.symm.trans hr')
      obtain ⟨_, rfl⟩ := hs.1.functional hs'.1
      obtain rfl := Option.some.inj (hd.symm.trans hd')
      rfl
    | literal hr' hs' ht' =>
      obtain rfl := Option.some.inj (hr.symm.trans hr')
      obtain ⟨_, rfl⟩ := hs.1.functional hs'.1
      cases ht.symm.trans ht'
  | literal hr hs ht _ _ =>
    cases h' with
    | pattern hr' hs' ht' =>
      obtain rfl := Option.some.inj (hr.symm.trans hr')
      obtain ⟨_, rfl⟩ := hs.1.functional hs'.1
      cases ht.symm.trans ht'
    | literal => rfl
  | extraPattern hi hs _ hd =>
    cases h' with
    | extraPattern hi' hs' _ hd' =>
      obtain rfl := Option.some.inj (hi.symm.trans hi')
      obtain ⟨_, rfl⟩ := hs.1.functional hs'.1
      obtain rfl := Option.some.inj (hd.symm.trans hd')
      rfl

/-! ## Conditions and faults -/

/-- The names that the properties list are those of rules. -/
theorem names_listed_iff (g : Grammar) :
    (∀ property names, g.listed property = .inl names → ∀ name ∈ names, name ∈ g.rules) ↔
      (∀ group ∈ g.conflicts.getD [], ∀ name ∈ group, name ∈ g.rules) ∧
      (∀ name ∈ g.inlined.getD [], name ∈ g.rules) ∧
      (∀ name ∈ g.supertypes.getD [], name ∈ g.rules) ∧
      ∀ name, g.word = some name → name ∈ g.rules := by
  constructor
  · intro h
    refine ⟨?_, h .inlined _ rfl, h .supertypes _ rfl, ?_⟩
    · intro group hg name hn
      exact h .conflicts _ rfl name (List.mem_flatten.mpr ⟨group, hg, hn⟩)
    · intro name hn
      exact h .word _ rfl name (by simp [hn])
  · rintro ⟨conflicts, inlined, supertypes, word⟩ property names hl name hn
    cases property with
    | conflicts =>
      cases hl
      obtain ⟨group, hg, hn⟩ := List.mem_flatten.mp hn
      exact conflicts group hg name hn
    | inlined => cases hl; exact inlined name hn
    | supertypes => cases hl; exact supertypes name hn
    | word => cases hl; exact word name (by simpa using hn)
    | extras | precedences => cases hl

/-- The rules that the properties list refer to what is defined. -/
theorem rules_listed_iff (g : Grammar) :
    (∀ property rules, g.listed property = .inr rules → ∀ r ∈ rules, g.ReferencesDefined r) ↔
      (∀ r ∈ g.extraRules, g.ReferencesDefined r) ∧
      ∀ order ∈ g.precedences.getD [], ∀ r ∈ order, g.ReferencesDefined r := by
  constructor
  · intro h
    refine ⟨h .extras _ rfl, ?_⟩
    intro order ho r hr
    exact h .precedences _ rfl r (List.mem_flatten.mpr ⟨order, ho, hr⟩)
  · rintro ⟨extras, precedences⟩ property rules hl r hr
    cases property with
    | extras => cases hl; exact extras r hr
    | precedences =>
      cases hl
      obtain ⟨order, ho, hr⟩ := List.mem_flatten.mp hr
      exact precedences order ho r hr
    | conflicts | inlined | supertypes | word => cases hl

/-- A grammar that meets the conditions has no fault. -/
theorem Sound.no_fault (sound : g.Sound check) : ¬g.Fault check p e := by
  have names := g.names_listed_iff.mpr
    ⟨sound.conflicts, sound.inlined, sound.supertypes, sound.word⟩
  have rules := g.rules_listed_iff.mpr ⟨sound.extras, sound.precedences⟩
  intro hf
  cases hf with
  | start hs =>
    obtain ⟨start, h⟩ := sound.start
    cases hs.symm.trans h
  | symbol hr w ht hn hu =>
    exact hu (sound.symbols _ _ hr _ (Rule.mem_preorder_iff_walk.mpr ⟨_, _, w⟩) ht _ hn)
  | name hl hi hm => exact hm (names _ _ hl _ (List.mem_of_getElem? hi))
  | reference hl hi w ht hn hu =>
    exact hu (rules _ _ hl _ (List.mem_of_getElem? hi) _
      (Rule.mem_preorder_iff_walk.mpr ⟨_, _, w⟩) ht _ hn)
  | pattern hr hs ht hd => cases hd.symm.trans (sound.patterns _ _ hr _ _ _ hs ht)
  | literal hr hs ht outside empty =>
    obtain ⟨text, htext, filled⟩ := sound.literals _ _ hr _ _ _ hs ht outside
    exact filled (empty text htext)
  | extraPattern hi hs ht hd =>
    cases hd.symm.trans (sound.extraPatterns _ (List.mem_of_getElem? hi) _ _ _ hs ht)

/-- A grammar without faults meets the conditions. -/
theorem sound_of_no_fault (clear : ∀ p e, ¬g.Fault check p e) : g.Sound check := by
  have names := g.names_listed_iff.mp fun property names hl name hn => by
    obtain ⟨i, hi⟩ := List.mem_iff_getElem?.mp hn
    by_contra hm
    exact clear _ _ (.name hl hi hm)
  have rules := g.rules_listed_iff.mp fun property rules hl body hb r hr ht name hn => by
    obtain ⟨i, hi⟩ := List.mem_iff_getElem?.mp hb
    obtain ⟨path, passed, w⟩ := Rule.mem_preorder_iff_walk.mp hr
    by_contra hu
    exact clear _ _ (.reference hl hi w ht hn hu)
  refine ⟨?start, ?symbols, names.1, names.2.1, names.2.2.1, names.2.2.2, rules.1, rules.2,
    ?patterns, ?literals, ?extraPatterns⟩
  case start =>
    cases h : g.startRule with
    | ok start => exact ⟨start, rfl⟩
    | error problem => exact absurd (.start h) (clear _ _)
  case symbols =>
    intro rule body hr r hm ht name hn
    obtain ⟨path, passed, w⟩ := Rule.mem_preorder_iff_walk.mp hm
    by_contra hu
    exact clear _ _ (.symbol hr w ht hn hu)
  case patterns =>
    intro rule body hr path passed r hs ht
    refine Option.eq_none_iff_forall_ne_some.mpr ?_
    intro detail hd
    exact clear _ _ (.pattern hr hs ht hd)
  case literals =>
    intro rule body hr path passed r hs ht outside
    by_contra hempty
    refine clear _ _ (.literal hr hs ht outside ?_)
    intro text htext
    by_contra filled
    exact hempty ⟨text, htext, filled⟩
  case extraPatterns =>
    intro extra hx path passed r hs ht
    obtain ⟨i, hi⟩ := List.mem_iff_getElem?.mp hx
    refine Option.eq_none_iff_forall_ne_some.mpr ?_
    intro detail hd
    exact clear _ _ (.extraPattern hi hs ht hd)

/-- The error of a grammar is the one at the first place that has a fault. -/
theorem error?_eq_some : g.error? check = some e ↔
    ∃ p, g.Fault check p e ∧ ∀ q e', g.Fault check q e' → p ≤ q := by
  have found := finds_error check g
  have least : ∀ e, g.error? check = some e →
      ∃ p, g.Fault check p e ∧ ∀ q e', g.Fault check q e' → p ≤ q := by
    intro e he
    obtain ⟨p, hf, first⟩ := found.first e he
    exact ⟨p, hf, fun q e' hf' => not_lt.mp fun before => first q before e' hf'⟩
  refine ⟨least e, ?_⟩
  rintro ⟨p, hf, first⟩
  cases he : g.error? check with
  | none => exact absurd hf (found.none_sound he p e)
  -- The fault that is found and the given one are both the first, and a place has one fault.
  | some e' =>
    obtain ⟨p', hf', first'⟩ := least e' he
    obtain rfl := le_antisymm (first p' e' hf') (first' p e hf)
    rw [hf.functional hf']

theorem error?_eq_none : g.error? check = none ↔ g.Sound check := by
  constructor
  · intro hn
    exact sound_of_no_fault ((finds_error check g).none_sound hn)
  · intro sound
    cases he : g.error? check with
    | none => rfl
    | some e =>
      obtain ⟨p, hf, _⟩ := error?_eq_some.mp he
      exact absurd hf sound.no_fault

/-- A grammar without errors is given the warnings about it, and no other. -/
theorem validateWith_eq_ok {warnings : List Warning} : g.validateWith check = .ok warnings ↔
    g.error? check = none ∧ ∃ start, g.startRule = .ok start ∧ warnings = g.warnings start := by
  unfold validateWith
  cases g.error? check with
  | some e => simp
  | none => cases g.startRule <;> simp [eq_comm]

/-- **A check of a grammar decides the documented conditions and reports the first violation.**
It succeeds just if the conditions are met, whatever it takes for a pattern to be usable, and
otherwise its error is the one at the first place that has a fault. -/
theorem validateWith_exact (check : PatternCheck) (g : Grammar) :
    ((∃ warnings, g.validateWith check = .ok warnings) ↔ g.Sound check) ∧
    ∀ e, g.validateWith check = .error e ↔
      ∃ p, g.Fault check p e ∧ ∀ q e', g.Fault check q e' → p ≤ q := by
  rw [← error?_eq_none]
  simp only [← error?_eq_some]
  unfold validateWith
  cases he : g.error? check with
  | some e => simp
  | none =>
    obtain ⟨start, hs⟩ := (error?_eq_none.mp he).start
    simp [hs]

end Grammar
end GrammarArtifact
