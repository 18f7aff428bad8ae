import GrammarArtifact.Proofs.Expansion.Derivation

/-! # Chains of expansions

A chain leads from a body down to one place in its expansion. It goes through the
parts of constructions, into fields and into the bodies of hidden rules, and keeps
the names of the hidden rules and of the fields that it enters. A chain that enters
a hidden rule twice can leave out what lies in between. So the kinds in a slot and
the names of the fields of a summary, which are those at the end of the chains that
enter no rule twice, can often be had from any chain. -/

namespace GrammarArtifact

/-- A shape leads to another one through the given hidden rules and fields, the outermost first. -/
inductive Grammar.Chain (g : Grammar) : Shape → List String → List String → Shape → Prop
  | refl {s} : Chain g s [] [] s
  | part {s m entered fields t} : m ∈ s.parts → Chain g (g.shape m) entered fields t →
      Chain g s entered fields t
  | hidden {name body entered fields t} : Chain g (g.shape body) entered fields t →
      Chain g (.hidden name body) (name :: entered) fields t
  | field {name c entered fields t} : Chain g (g.shape c) entered fields t →
      Chain g (.field name c) entered (name :: fields) t

namespace Grammar
variable {g : Grammar} {u : Unfolding} {inside entered fields : List String} {s t : Shape}
  {name : String} {r body : Rule} {w : List PlacedNode}

namespace Chain

theorem append {s₁ s₂ s₃ : Shape} {entered' fields' : List String}
    (h : g.Chain s₁ entered fields s₂) (h' : g.Chain s₂ entered' fields' s₃) :
    g.Chain s₁ (entered ++ entered') (fields ++ fields') s₃ := by
  induction h with
  | refl => exact h'
  | part hm _ ih => exact .part hm (ih h')
  | hidden _ ih => exact .hidden (ih h')
  | field _ ih => exact .field (ih h')

theorem seq_cons {m : Rule} {ms : List Rule} (h : g.Chain (.seq ms) entered fields t) :
    (t = .seq ms ∧ entered = []) ∨ g.Chain (.seq (m :: ms)) entered fields t := by
  cases h with
  | refl => exact .inl ⟨rfl, rfl⟩
  | part hm hc => exact .inr (.part (List.mem_cons_of_mem _ hm) hc)

/-- A chain that enters a hidden rule has a rest that starts from the body of that rule. -/
theorem split (h : g.Chain (g.shape r) entered fields t) (hn : name ∈ entered) :
    ∃ body entered' fields', g.hiddenBody? name = some body ∧
      g.Chain (g.shape body) entered' fields' t ∧
      (name :: entered') <:+ entered ∧ fields' <:+ fields := by
  generalize hs : g.shape r = s at h
  induction h generalizing r with
  | refl => cases hn
  | part hm _ ih => exact ih hn rfl
  | @hidden other body entered fields t h ih =>
    by_cases he : name = other
    · subst he
      exact ⟨body, entered, fields, hiddenBody?_of_shape hs, h, List.suffix_rfl, List.suffix_rfl⟩
    · have hn : name ∈ entered := by simpa [he] using hn
      obtain ⟨body', entered', fields', hb, hc, hsuffix, hf⟩ := ih hn rfl
      exact ⟨body', entered', fields', hb, hc, hsuffix.trans (List.suffix_cons _ _), hf⟩
  | field _ ih =>
    obtain ⟨body', entered', fields', hb, hc, hsuffix, hf⟩ := ih hn rfl
    exact ⟨body', entered', fields', hb, hc, hsuffix, hf.trans (List.suffix_cons _ _)⟩

/-- **A chain can be cut short until it enters no hidden rule twice.** What is left out are the
rules and the fields between two entries of the same rule. -/
theorem exists_nodup (h : g.Chain (g.shape r) entered fields t) :
    ∃ entered' fields', g.Chain (g.shape r) entered' fields' t ∧ entered'.Nodup ∧
      entered'.Sublist entered ∧ fields'.Sublist fields := by
  generalize hs : g.shape r = s at h
  induction h generalizing r with
  | refl => exact ⟨[], [], .refl, List.nodup_nil, List.Sublist.refl _, List.Sublist.refl _⟩
  | part hm _ ih =>
    obtain ⟨entered', fields', hc, hn, he, hf⟩ := ih rfl
    exact ⟨entered', fields', .part hm hc, hn, he, hf⟩
  | field _ ih =>
    obtain ⟨entered', fields', hc, hn, he, hf⟩ := ih rfl
    exact ⟨entered', _, .field hc, hn, he, hf.cons_cons _⟩
  | @hidden name body entered fields t _ ih =>
    obtain ⟨entered', fields', hc, hn, he, hf⟩ := ih rfl
    by_cases hm : name ∈ entered'
    · -- the rule is entered again: go on from its last entry
      obtain ⟨body', entered'', fields'', hb, hc', hsuffix, hf'⟩ := hc.split hm
      have same : body' = body := Option.some.inj (hb.symm.trans (hiddenBody?_of_shape hs))
      subst same
      have shorter := hsuffix.sublist
      exact ⟨name :: entered'', fields'', .hidden hc', hn.sublist shorter,
        (shorter.trans he).trans (List.sublist_cons_self _ _), hf'.sublist.trans hf⟩
    · exact ⟨name :: entered', fields', .hidden hc, List.nodup_cons.mpr ⟨hm, hn⟩,
        he.cons_cons _, hf⟩

end Chain

/-- A node of a word is at the end of a chain, which enters the fields that hold the node. -/
theorem Derives.chain_of_mem {n : PlacedNode} (h : g.Derives u inside s w) (hn : n ∈ w) :
    ∃ entered, g.Chain s entered n.fields (.node n.ref) := by
  induction h generalizing n with
  | nothing | stop | seqNil | choiceNil => cases hn
  | node =>
    rw [List.mem_singleton.mp hn]
    exact ⟨[], .refl⟩
  | unfold _ _ ih =>
    obtain ⟨entered, hc⟩ := ih hn
    exact ⟨_, .hidden hc⟩
  | @seqCons inside m ms v w _ _ ihv ihw =>
    rcases List.mem_append.mp hn with hn | hn
    · obtain ⟨entered, hc⟩ := ihv hn
      exact ⟨entered, .part (by simp [Shape.parts]) hc⟩
    · obtain ⟨entered, hc⟩ := ihw hn
      rcases hc.seq_cons with ⟨ht, _⟩ | hc
      · cases ht
      · exact ⟨entered, hc⟩
  | choice hm _ ih =>
    obtain ⟨entered, hc⟩ := ih hn
    exact ⟨entered, .part hm hc⟩
  | repeated _ _ ih =>
    obtain ⟨part, hp, hn⟩ := List.mem_flatten.mp hn
    obtain ⟨entered, hc⟩ := ih part hp hn
    exact ⟨entered, .part (by simp [Shape.parts]) hc⟩
  | field _ ih =>
    obtain ⟨n', hn', rfl⟩ := List.mem_map.mp hn
    obtain ⟨entered, hc⟩ := ih hn'
    exact ⟨entered, .field hc⟩
  | wrapper _ ih =>
    obtain ⟨entered, hc⟩ := ih hn
    exact ⟨entered, .part (by simp [Shape.parts]) hc⟩

end Grammar
end GrammarArtifact
