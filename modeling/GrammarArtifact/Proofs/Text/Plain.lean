import GrammarArtifact.Proofs.Text.CharSet
import GrammarArtifact.Text.Decimal
import GrammarArtifact.Text.Location
import GrammarArtifact.Text.Quoted

/-! # Plain text

A text is plain if a display keeps it on one line and obeys none of its characters.
Numbers are plain however they are written, and quoting makes any text plain: the tables
of characters that a display does not show hold all controls and separators. -/

namespace GrammarArtifact

/-- A control character, or one that separates lines or paragraphs. -/
def isControl (c : Char) : Bool :=
  c.toNat < 0x20 || (0x7F ≤ c.toNat && c.toNat ≤ 0x9F) || c.toNat == 0x2028 || c.toNat == 0x2029

/-- The text has no control characters and stays on one line. -/
def IsPlain (s : String) : Prop := ∀ c ∈ s.toList, isControl c = false

theorem all_not_isControl {cs : List Char} :
    (cs.all fun c => !isControl c) = true ↔ ∀ c ∈ cs, isControl c = false := by
  simp

instance (s : String) : Decidable (IsPlain s) := decidable_of_iff _ all_not_isControl

theorem isControl_iff {c : Char} : isControl c = true ↔
    c.toNat ≤ 0x1F ∨ (0x7F ≤ c.toNat ∧ c.toNat ≤ 0x9F) ∨ c.toNat = 0x2028 ∨ c.toNat = 0x2029 := by
  simp only [isControl, Bool.or_eq_true, Bool.and_eq_true, decide_eq_true_eq, beq_iff_eq, or_assoc]
  omega

theorem isPlain_append {s t : String} : IsPlain (s ++ t) ↔ IsPlain s ∧ IsPlain t := by
  simp only [IsPlain, String.toList_append, List.forall_mem_append]

theorem IsPlain.append {s t : String} (hs : IsPlain s) (ht : IsPlain t) : IsPlain (s ++ t) :=
  isPlain_append.mpr ⟨hs, ht⟩

theorem isPlain_ofList {cs : List Char} :
    IsPlain (String.ofList cs) ↔ ∀ c ∈ cs, isControl c = false := by
  unfold IsPlain
  rw [String.toList_ofList]

theorem isPlain_join {parts : List String} (h : ∀ s ∈ parts, IsPlain s) :
    IsPlain (String.join parts) := by
  unfold IsPlain
  rw [String.toList_join]
  intro c hc
  obtain ⟨s, hs, hc⟩ := List.mem_flatMap.mp hc
  exact h s hs c hc

theorem isPlain_intercalate {separator : String} {parts : List String}
    (between : IsPlain separator) (h : ∀ s ∈ parts, IsPlain s) :
    IsPlain (separator.intercalate parts) := by
  unfold IsPlain
  rw [String.toList_intercalate]
  induction parts with
  | nil => nofun
  | cons s parts ih =>
    obtain ⟨hs, h⟩ := List.forall_mem_cons.mp h
    cases parts with
    | nil => simpa [IsPlain] using hs
    | cons t parts =>
      rw [List.map_cons, List.map_cons, List.intercalate_cons_cons, ← List.map_cons,
        List.forall_mem_append, List.forall_mem_append]
      exact ⟨⟨hs, between⟩, ih h⟩

/-! ## Numbers -/

/-- Digits are plain to any base that letters suffice for. -/
theorem isControl_toDigits {base n : Nat} (large : 1 < base) (few : base ≤ 16) :
    ∀ c ∈ Nat.toDigits base n, isControl c = false := by
  have digit : ∀ d < 16, isControl (Nat.digitChar d) = false := by decide
  induction n using Nat.strongRecOn with
  | ind n ih =>
    intro c hc
    by_cases small : n < base
    · rw [Nat.toDigits_of_lt_base small, List.mem_singleton] at hc
      rw [hc]
      exact digit n (Nat.lt_of_lt_of_le small few)
    · have below : n % base < base := Nat.mod_lt n (by omega)
      rw [Nat.toDigits_of_base_le large (Nat.le_of_not_lt small), List.mem_append,
        List.mem_singleton] at hc
      rcases hc with hc | rfl
      · exact ih (n / base) (Nat.div_lt_self (by omega) large) c hc
      · exact digit _ (Nat.lt_of_lt_of_le below few)

theorem isPlain_nat (n : Nat) : IsPlain (toString n) := by
  have digits : (toString n).toList = Nat.toDigits 10 n := Nat.toList_repr
  unfold IsPlain
  rw [digits]
  exact isControl_toDigits (by decide) (by decide)

theorem isPlain_int (n : Int) : IsPlain (toString n) := by
  cases n with
  | ofNat n => exact isPlain_nat n
  | negSucc n =>
    have text : toString (Int.negSucc n) = "-" ++ toString (n + 1) := rfl
    rw [text]
    exact .append (by decide) (isPlain_nat (n + 1))

/-- The place that ends a message is plain. -/
theorem Location.isPlain_suffix (here : Location) : IsPlain here.suffix :=
  (((IsPlain.append (by decide) (isPlain_nat _)).append (by decide)).append (isPlain_nat _))

namespace Decimal

theorem Digits.isPlain_text (d : Digits) : IsPlain d.text := by
  have digits : ∀ n, ∀ c ∈ Nat.toDigits 10 n, isControl c = false := fun n =>
    isControl_toDigits (by decide) (by decide)
  have zeros : ∀ n, ∀ c ∈ List.replicate n '0', isControl c = false := by
    intro n c hc
    rw [(List.mem_replicate.mp hc).2]
    rfl
  have front : ∀ n k, ∀ c ∈ (Nat.toDigits 10 n).take k, isControl c = false := fun n k c hc =>
    digits n c (List.mem_of_mem_take hc)
  have back : ∀ n k, ∀ c ∈ (Nat.toDigits 10 n).drop k, isControl c = false := fun n k c hc =>
    digits n c (List.mem_of_mem_drop hc)
  unfold text
  rw [isPlain_ofList]
  dsimp only
  split
  · simp only [List.forall_mem_append]
    exact ⟨⟨digits _, zeros _⟩, all_not_isControl.mp rfl⟩
  split
  · simp only [List.forall_mem_append]
    exact ⟨⟨front _ _, all_not_isControl.mp rfl⟩, back _ _⟩
  split
  · simp only [List.forall_mem_append]
    exact ⟨⟨all_not_isControl.mp rfl, zeros _⟩, digits _⟩
  · simp only [List.forall_mem_append]
    refine ⟨⟨⟨front _ _, ?_⟩, ?_⟩, digits _⟩
    · split
      · nofun
      · exact List.forall_mem_cons.mpr ⟨rfl, back _ _⟩
    · split <;> exact all_not_isControl.mp rfl

theorem isPlain_ofFloat (x : Float) : IsPlain (ofFloat x) := by
  unfold ofFloat
  refine .append ?_ ?_
  · split <;> decide
  · split
    · decide
    · exact Digits.isPlain_text _

end Decimal

/-! ## Quoted text -/

namespace Unicode
open CharSet

theorem contains_category {name : String} (part : String) {set : CharSet} {c : Nat}
    (under : part ∈ categoriesUnder name) (ranges : rangesOf? categoryRanges part = some set)
    (h : set.contains c = true) : (category name).contains c = true :=
  contains_unions.mpr ⟨set, List.mem_filterMap.mpr ⟨part, under, ranges⟩, h⟩

theorem contains_ofLines {lines : List String} (lo hi : Nat) {c : Nat}
    (listed : ⟨lo, hi⟩ ∈ lines.flatMap readRanges) (h : lo ≤ c ∧ c ≤ hi) :
    (ofLines lines).contains c = true :=
  contains_ofRanges.mpr ⟨_, listed, h⟩

/-- The classes of controls and of blanks are not shown, the space apart. -/
theorem contains_unprintable {name : String} {c : Nat} (within : name ∈ ["C", "Z"])
    (h : (category name).contains c = true) (character : c ≤ top) (visible : c ≠ ' '.toNat) :
    unprintable.contains c = true := by
  have blank : CodeRange.Ordered (CharSet.singleton ' '.toNat).ranges :=
    CodeRange.ordered_cons.mpr ⟨Nat.le_refl _, nofun, CodeRange.ordered_nil⟩
  unfold unprintable
  rw [contains_diff ordered_unions blank character, contains_unions]
  refine ⟨⟨_, List.mem_map.mpr ⟨name, within, rfl⟩, h⟩, fun space => visible ?_⟩
  obtain ⟨r, hr, low, high⟩ := contains_iff.mp space
  rw [List.mem_singleton.mp hr] at low high
  exact Nat.le_antisymm high low

/-- Controls and separators are not shown. -/
theorem contains_unprintable_of_isControl {c : Char} (h : isControl c = true) :
    unprintable.contains c.toNat = true := by
  have character : c.toNat ≤ top := by
    have valid : c.toNat.isValidChar := c.valid
    unfold Nat.isValidChar at valid
    unfold top
    omega
  have control {lo hi : Nat} (listed : ⟨lo, hi⟩ ∈ ["0-1f 7f-9f"].flatMap readRanges)
      (h : lo ≤ c.toNat ∧ c.toNat ≤ hi) : (category "C").contains c.toNat = true :=
    contains_category "Cc" (by decide +kernel) rfl (contains_ofLines lo hi listed h)
  rw [isControl_iff] at h
  have visible : c.toNat ≠ ' '.toNat := by
    change c.toNat ≠ 0x20
    omega
  rcases h with h | h | h | h
  · have low : (category "C").contains c.toNat = true := control (by decide) ⟨Nat.zero_le _, h⟩
    exact contains_unprintable (by decide) low character visible
  · exact contains_unprintable (by decide) (control (by decide) h) character visible
  · have line : (category "Z").contains c.toNat = true :=
      contains_category "Zl" (by decide +kernel) rfl
        (contains_ofLines 0x2028 0x2028 (by decide) (by omega))
    exact contains_unprintable (by decide) line character visible
  · have paragraph : (category "Z").contains c.toNat = true :=
      contains_category "Zp" (by decide +kernel) rfl
        (contains_ofLines 0x2029 0x2029 (by decide) (by omega))
    exact contains_unprintable (by decide) paragraph character visible

end Unicode

theorem isPlain_singleton {c : Char} (h : isControl c = false) : IsPlain c.toString := by
  simpa [IsPlain] using h

theorem isPlain_quotedChar (c : Char) : IsPlain (quotedChar c) := by
  unfold quotedChar
  split
  case h_7 =>
    dsimp only
    split
    · next visible =>
      refine isPlain_singleton ?_
      rw [← Bool.not_eq_true, isControl_iff]
      omega
    · split
      · have digits : IsPlain (hexText c.toNat) :=
          isPlain_ofList.mpr (isControl_toDigits (by decide) (by decide))
        exact (IsPlain.append (by decide) digits).append (by decide)
      · next shown =>
        refine isPlain_singleton ?_
        rw [← Bool.not_eq_true]
        intro control
        exact shown (by rw [Unicode.contains_unprintable_of_isControl control, Bool.or_true])
  all_goals decide

/-- **Quoting makes any text plain.** -/
theorem isPlain_quoted (text : String) : IsPlain (quoted text) := by
  have parts : IsPlain (String.join (text.toList.map quotedChar)) := by
    refine isPlain_join fun s hs => ?_
    obtain ⟨c, _, rfl⟩ := List.mem_map.mp hs
    exact isPlain_quotedChar c
  exact (IsPlain.append (by decide) parts).append (by decide)

end GrammarArtifact
