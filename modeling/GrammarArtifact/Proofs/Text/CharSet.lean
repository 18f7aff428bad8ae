import GrammarArtifact.Text.CharSet

/-! # Members of sets of code points

The operations on sets are said in terms of their members. Joining ranges keeps the
members of any list of ranges; what is left of all code points is right only for ranges
in order, so every operation is shown to give such ranges. -/

namespace GrammarArtifact

namespace CodeRange

/-- The code point lies in one of the ranges. -/
def Covers (ranges : List CodeRange) (c : Nat) : Prop := ∃ r ∈ ranges, r.lo ≤ c ∧ c ≤ r.hi

/-- No range is empty, and they come in increasing order with a gap between any two. -/
structure Ordered (ranges : List CodeRange) : Prop where
  filled : ∀ r ∈ ranges, r.lo ≤ r.hi
  apart : ranges.Pairwise fun r r' => r.hi + 1 < r'.lo

variable {c : Nat} {ranges more : List CodeRange} {r : CodeRange}

theorem not_covers_nil : ¬ Covers [] c := nofun

theorem covers_cons : Covers (r :: ranges) c ↔ (r.lo ≤ c ∧ c ≤ r.hi) ∨ Covers ranges c := by
  simp [Covers]

theorem covers_append : Covers (ranges ++ more) c ↔ Covers ranges c ∨ Covers more c := by
  simp [Covers, or_and_right, exists_or]

theorem ordered_nil : Ordered [] := ⟨nofun, .nil⟩

theorem ordered_cons : Ordered (r :: ranges) ↔
    r.lo ≤ r.hi ∧ (∀ r' ∈ ranges, r.hi + 1 < r'.lo) ∧ Ordered ranges := by
  constructor
  · rintro ⟨filled, apart⟩
    obtain ⟨here, filled⟩ := List.forall_mem_cons.mp filled
    obtain ⟨behind, apart⟩ := List.pairwise_cons.mp apart
    exact ⟨here, behind, filled, apart⟩
  · rintro ⟨here, behind, filled, apart⟩
    exact ⟨List.forall_mem_cons.mpr ⟨here, filled⟩, List.pairwise_cons.mpr ⟨behind, apart⟩⟩

end CodeRange

namespace CharSet
open CodeRange
variable {c : Nat} {ranges : List CodeRange} {r : CodeRange} {s t : CharSet}

theorem contains_iff : s.contains c = true ↔ Covers s.ranges c := by
  simp [contains, Covers]

/-! ## Joining ranges -/

/-- Two ranges that touch are one. -/
theorem covers_touching {current : CodeRange} (low : current.lo ≤ r.lo)
    (touches : r.lo ≤ current.hi + 1) :
    Covers (⟨current.lo, max current.hi r.hi⟩ :: ranges) c ↔ Covers (current :: r :: ranges) c := by
  simp only [covers_cons, ← or_assoc]
  refine or_congr_left ?_
  omega

theorem covers_go {current : CodeRange} (first : ∀ r ∈ ranges, current.lo ≤ r.lo)
    (sorted : ranges.Pairwise fun r r' => r.lo ≤ r'.lo) :
    Covers (joinRanges.go current ranges) c ↔ Covers (current :: ranges) c := by
  induction ranges generalizing current with
  | nil => rfl
  | cons r ranges ih =>
    obtain ⟨low, first⟩ := List.forall_mem_cons.mp first
    obtain ⟨next, sorted⟩ := List.pairwise_cons.mp sorted
    rw [joinRanges.go]
    split
    · next touches =>
      have joined := @ih ⟨current.lo, max current.hi r.hi⟩ first sorted
      exact joined.trans (covers_touching low touches)
    · rw [covers_cons, ih next sorted, ← covers_cons]

/-- What is joined to a range begins with it or behind it. -/
theorem ordered_go {current : CodeRange} (filled : current.lo ≤ current.hi)
    (first : ∀ r ∈ ranges, current.lo ≤ r.lo ∧ r.lo ≤ r.hi)
    (sorted : ranges.Pairwise fun r r' => r.lo ≤ r'.lo) :
    Ordered (joinRanges.go current ranges) ∧
      ∀ r ∈ joinRanges.go current ranges, current.lo ≤ r.lo := by
  induction ranges generalizing current with
  | nil =>
    rw [joinRanges.go, ordered_cons, List.forall_mem_singleton]
    exact ⟨⟨filled, nofun, ordered_nil⟩, Nat.le_refl _⟩
  | cons r ranges ih =>
    obtain ⟨⟨low, here⟩, first⟩ := List.forall_mem_cons.mp first
    obtain ⟨next, sorted⟩ := List.pairwise_cons.mp sorted
    rw [joinRanges.go]
    split
    · exact ih (Nat.le_trans filled (Nat.le_max_left _ _)) first sorted
    · next apart =>
      obtain ⟨ordered, behind⟩ := ih here (fun r' hr => ⟨next r' hr, (first r' hr).2⟩) sorted
      refine ⟨ordered_cons.mpr ⟨filled, fun r' hr => ?_, ordered⟩,
        List.forall_mem_cons.mpr ⟨Nat.le_refl _, fun r' hr => Nat.le_trans low (behind r' hr)⟩⟩
      have := behind r' hr
      omega

theorem pairwise_mergeSort_lo (ranges : List CodeRange) :
    (ranges.mergeSort fun a b => decide (a.lo ≤ b.lo)).Pairwise fun r r' => r.lo ≤ r'.lo := by
  have sorted := @List.pairwise_mergeSort CodeRange (fun a b => decide (a.lo ≤ b.lo))
    (by simpa using fun a b c => Nat.le_trans) (by simpa using fun a b => Nat.le_total _ _) ranges
  simpa using sorted

/-- A set made of ranges holds what lies in one of them. -/
theorem contains_ofRanges : (ofRanges ranges).contains c = true ↔ Covers ranges c := by
  have members : Covers ((ranges.filter fun r => decide (r.lo ≤ r.hi)).mergeSort
      fun a b => decide (a.lo ≤ b.lo)) c ↔ Covers ranges c := by
    simp only [Covers, List.mem_mergeSort, List.mem_filter, decide_eq_true_eq]
    constructor
    · rintro ⟨r, ⟨hr, _⟩, hc⟩
      exact ⟨r, hr, hc⟩
    · rintro ⟨r, hr, hc⟩
      exact ⟨r, ⟨hr, Nat.le_trans hc.1 hc.2⟩, hc⟩
  have sorted := pairwise_mergeSort_lo (ranges.filter fun r => decide (r.lo ≤ r.hi))
  rw [contains_iff, ← members]
  unfold ofRanges
  generalize (ranges.filter fun r => decide (r.lo ≤ r.hi)).mergeSort
    (fun a b => decide (a.lo ≤ b.lo)) = ready at sorted
  cases ready with
  | nil => rfl
  | cons r rest =>
    obtain ⟨first, sorted⟩ := List.pairwise_cons.mp sorted
    exact covers_go first sorted

theorem ordered_ofRanges : Ordered (ofRanges ranges).ranges := by
  have sorted := pairwise_mergeSort_lo (ranges.filter fun r => decide (r.lo ≤ r.hi))
  have filled : ∀ r ∈ (ranges.filter fun r => decide (r.lo ≤ r.hi)).mergeSort
      fun a b => decide (a.lo ≤ b.lo), r.lo ≤ r.hi := by
    simp
  unfold ofRanges
  generalize (ranges.filter fun r => decide (r.lo ≤ r.hi)).mergeSort
    (fun a b => decide (a.lo ≤ b.lo)) = ready at sorted filled
  cases ready with
  | nil => exact ordered_nil
  | cons r rest =>
    obtain ⟨first, sorted⟩ := List.pairwise_cons.mp sorted
    obtain ⟨here, filled⟩ := List.forall_mem_cons.mp filled
    exact (ordered_go here (fun r' hr => ⟨first r' hr, filled r' hr⟩) sorted).1

theorem contains_unions {sets : List CharSet} :
    (unions sets).contains c = true ↔ ∃ s ∈ sets, s.contains c = true := by
  unfold unions
  rw [contains_ofRanges]
  simp only [contains_iff]
  constructor
  · rintro ⟨r, hr, hc⟩
    obtain ⟨s, hs, hr⟩ := List.mem_flatMap.mp hr
    exact ⟨s, hs, r, hr, hc⟩
  · rintro ⟨s, hs, r, hr, hc⟩
    exact ⟨r, List.mem_flatMap.mpr ⟨s, hs, hr⟩, hc⟩

theorem ordered_unions {sets : List CharSet} : Ordered (unions sets).ranges := ordered_ofRanges

/-! ## What is left -/

theorem covers_gaps {last next : Nat} (ordered : Ordered ranges)
    (ahead : ∀ r ∈ ranges, next ≤ r.lo) (small : c ≤ last) :
    Covers (gaps last next ranges) c ↔ next ≤ c ∧ ¬ Covers ranges c := by
  induction ranges generalizing next with
  | nil =>
    unfold gaps
    split
    · simp [Covers, small]
    · simp only [not_covers_nil, not_false_iff, and_true, false_iff]
      omega
  | cons r ranges ih =>
    obtain ⟨start, _⟩ := List.forall_mem_cons.mp ahead
    obtain ⟨filled, apart, ordered⟩ := ordered_cons.mp ordered
    -- Nothing behind the first range lies before its end.
    have behind : Covers ranges c → r.hi + 1 ≤ c := by
      rintro ⟨r', hr, hc, _⟩
      exact Nat.le_trans (Nat.le_of_lt (apart r' hr)) hc
    have rest := ih ordered fun r' hr => Nat.le_of_lt (apart r' hr)
    rw [gaps, @covers_cons c ranges r]
    split
    · rw [covers_cons, rest]
      dsimp only
      by_cases covered : Covers ranges c
      · have := behind covered
        simp only [covered, not_true, and_false, or_true, or_false, iff_false]
        omega
      · simp only [covered, not_false_iff, and_true, or_false]
        omega
    · rw [rest]
      by_cases covered : Covers ranges c
      · simp [covered]
      · simp only [covered, not_false_iff, and_true, or_false]
        omega

theorem ordered_gaps {last next : Nat} (ordered : Ordered ranges)
    (ahead : ∀ r ∈ ranges, next ≤ r.lo) :
    Ordered (gaps last next ranges) ∧ ∀ r ∈ gaps last next ranges, next ≤ r.lo := by
  induction ranges generalizing next with
  | nil =>
    unfold gaps
    split
    · next room =>
      rw [ordered_cons, List.forall_mem_singleton]
      exact ⟨⟨room, nofun, ordered_nil⟩, Nat.le_refl _⟩
    · exact ⟨ordered_nil, nofun⟩
  | cons r ranges ih =>
    obtain ⟨start, _⟩ := List.forall_mem_cons.mp ahead
    obtain ⟨filled, apart, ordered⟩ := ordered_cons.mp ordered
    obtain ⟨tail, behind⟩ := ih ordered fun r' hr => Nat.le_of_lt (apart r' hr)
    rw [gaps]
    split
    · next room =>
      rw [ordered_cons, List.forall_mem_cons]
      refine ⟨⟨Nat.le_sub_one_of_lt room, fun r' hr => ?_, tail⟩, Nat.le_refl _, fun r' hr => ?_⟩
      · have := behind r' hr
        dsimp only
        omega
      · have := behind r' hr
        omega
    · refine ⟨tail, fun r' hr => ?_⟩
      have := behind r' hr
      omega

theorem contains_complement {last : Nat} (ordered : Ordered s.ranges) (small : c ≤ last) :
    (s.complement last).contains c = true ↔ ¬ s.contains c = true := by
  rw [contains_iff, contains_iff, complement, covers_gaps ordered (by simp) small]
  simp

theorem ordered_complement {last : Nat} (ordered : Ordered s.ranges) :
    Ordered (s.complement last).ranges :=
  (ordered_gaps ordered (by simp)).1

theorem contains_inter (hs : Ordered s.ranges) (ht : Ordered t.ranges) (small : c ≤ top) :
    (s.inter t).contains c = true ↔ s.contains c = true ∧ t.contains c = true := by
  unfold inter union
  rw [contains_complement ordered_ofRanges small, contains_ofRanges, covers_append, ← contains_iff,
    ← contains_iff, contains_complement hs small, contains_complement ht small, not_or,
    Decidable.not_not, Decidable.not_not]

/-- A difference holds what is in the first set and not in the second. -/
theorem contains_diff (hs : Ordered s.ranges) (ht : Ordered t.ranges) (small : c ≤ top) :
    (s.diff t).contains c = true ↔ s.contains c = true ∧ ¬ t.contains c = true := by
  unfold diff
  rw [contains_inter hs (ordered_complement ht) small, contains_complement ht small]

end CharSet
end GrammarArtifact
