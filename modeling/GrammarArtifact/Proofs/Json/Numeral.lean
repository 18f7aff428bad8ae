import GrammarArtifact.Proofs.Json.Tree

/-! # Reading numerals

A numeral is as long as it can be: what comes behind it does not go on with it. Where
its value counts only whole numbers matter here, since nothing that is read has a place
for any other. Where nobody asks for it its form is checked. -/

namespace GrammarArtifact.Json
variable {cs rest : List Char}

theorem noDigit_nil : NoDigit [] := by
  intro c h
  cases h

theorem noDigit_cons {c : Char} : NoDigit (c :: rest) ↔ c.isDigit = false := by
  simp [NoDigit]

/-- Digits up to something else are found by taking as many as there are. -/
theorem takeWhile_digits {ds : List Char} (digits : ∀ c ∈ ds, c.isDigit = true)
    (ends : NoDigit rest) : (ds ++ rest).takeWhile Char.isDigit = ds := by
  rw [List.takeWhile_append_of_pos digits]
  cases rest with
  | nil => simp
  | cons c rest => simp [noDigit_cons.mp ends]

theorem noDigit_dropWhile (cs : List Char) : NoDigit (cs.dropWhile Char.isDigit) := by
  intro c h
  have := List.head?_dropWhile_not Char.isDigit cs
  rw [h] at this
  exact this

namespace Reader

theorem exact_digits : Exact digits cs fun ds rest =>
    ∃ written, cs = written ++ rest ∧ (∀ c ∈ written, c.isDigit = true) ∧ NoDigit rest ∧
      ds = written.filterMap digit? := by
  intro n ds rest
  have run : digits.run ⟨cs, n⟩ = .ok ((cs.takeWhile Char.isDigit).filterMap digit?,
      ⟨cs.drop (cs.takeWhile Char.isDigit).length, n + (cs.takeWhile Char.isDigit).length⟩) := rfl
  have left : cs.drop (cs.takeWhile Char.isDigit).length = cs.dropWhile Char.isDigit := by
    have : (cs.takeWhile Char.isDigit ++ cs.dropWhile Char.isDigit).drop
        (cs.takeWhile Char.isDigit).length = cs.dropWhile Char.isDigit := List.drop_left
    rwa [List.takeWhile_append_dropWhile] at this
  rw [run, left]
  constructor
  · rintro ⟨m, hm⟩
    cases hm
    exact ⟨_, List.takeWhile_append_dropWhile.symm, fun c hc => List.mem_takeWhile_imp hc,
      noDigit_dropWhile cs, rfl⟩
  · rintro ⟨written, rfl, digits, ends, rfl⟩
    rw [← left, takeWhile_digits digits ends, List.drop_left]
    exact ⟨_, rfl⟩

theorem exact_wholePart (atEnd : Problem) : Exact (wholePart atEnd) cs fun ds rest =>
    ∃ whole, cs = whole ++ rest ∧ IsWhole whole rest ∧ ds = whole.filterMap digit? := by
  refine exact_peek ?_
  cases cs with
  | nil =>
    refine (refuses_fail _).exact ?_
    rintro _ rest ⟨whole, h, ⟨⟨some, _⟩, _⟩, _⟩
    exact some (List.append_eq_nil_iff.mp h.symm).1
  | cons c cs =>
    dsimp only [List.head?_cons]
    split
    · next h => cases h
    · next h =>
      cases h
      -- a zero that stands alone
      have alone : ∀ ds rest, (∃ whole, '0' :: cs = whole ++ rest ∧ IsWhole whole rest ∧
          ds = whole.filterMap digit?) ↔ ds = [0] ∧ NoDigit cs ∧ rest = cs := by
        intro ds rest
        constructor
        · rintro ⟨whole, h, ⟨⟨some, _, ends⟩, zero⟩, rfl⟩
          cases whole with
          | nil => exact absurd rfl some
          | cons d ds =>
            cases h
            cases zero rfl
            exact ⟨rfl, ends, rfl⟩
        · rintro ⟨rfl, ends, rfl⟩
          exact ⟨['0'], rfl, ⟨⟨by simp, by simp, ends⟩, fun _ => rfl⟩, rfl⟩
      refine exact_skip (exact_peek ?_)
      simp only [alone]
      cases cs with
      | nil => exact exact_pure.congr (by simp [noDigit_nil])
      | cons d cs =>
        dsimp only [List.head?_cons]
        by_cases digit : d.isDigit = true
        · rw [if_pos digit]
          exact (refuses_failAhead _).exact (by simp [noDigit_cons, digit])
        · rw [if_neg digit]
          exact exact_pure.congr (by simp [noDigit_cons, digit])
    · next c' zero h =>
      cases h
      by_cases digit : c.isDigit = true
      · rw [if_pos digit]
        refine exact_digits.congr fun ds rest => ?_
        constructor
        · rintro ⟨written, h, digits, ends, rfl⟩
          cases written with
          | nil => cases h; rw [noDigit_cons, digit] at ends; cases ends
          | cons d ds =>
            cases h
            exact ⟨_, rfl, ⟨⟨by simp, digits, ends⟩, fun h => absurd (Option.some.inj h) zero⟩, rfl⟩
        · rintro ⟨whole, h, ⟨⟨_, digits, ends⟩, _⟩, rfl⟩
          exact ⟨whole, h, digits, ends, rfl⟩
      · rw [if_neg digit]
        refine (refuses_failAhead _).exact ?_
        rintro _ rest ⟨whole, h, ⟨⟨some, digits, _⟩, _⟩, _⟩
        cases whole with
        | nil => exact some rfl
        | cons d ds => cases h; exact digit (digits c (by simp))

/-! ## Numerals that are passed over -/

def skipFraction : Reader Unit := do
  if (← peek?) == some '.' then do
    skip
    if (← digits).isEmpty then failAhead .badNumber

def skipExponent : Reader Unit := do
  if ← exponentNext then do
    skip
    let _ ← exponentSign
    if (← peek?).any Char.isDigit then do
      let _ ← digits
    else failAhead .badNumber

theorem skipNumber_eq : skipNumber =
    wholePart .badNumber >>= fun _ => skipFraction >>= fun _ => skipExponent := by
  unfold skipNumber skipFraction skipExponent
  simp only [bind_assoc]
  congr 1
  funext _
  congr 1
  funext next
  split
  · simp only [bind_assoc]
    congr 1
    funext _
    congr 1
    funext ds
    split <;> rfl
  · rfl

theorem filterMap_digit_isEmpty {ds : List Char} (h : ∀ c ∈ ds, c.isDigit = true) :
    (ds.filterMap digit?).isEmpty = ds.isEmpty := by
  cases ds with
  | nil => rfl
  | cons d ds => simp [digit?, h d (by simp)]

theorem exact_skipFraction : Exact skipFraction cs fun _ rest =>
    ∃ part, cs = part ++ rest ∧ IsFraction part rest := by
  refine exact_peek ?_
  by_cases point : cs.head? = some '.'
  · obtain ⟨cs, rfl⟩ := List.head?_eq_some_iff.mp point
    refine exact_skip ((exact_digits.bind
      (R := fun ds mid _ rest => ds.isEmpty = false ∧ rest = mid) fun ds mid _ => ?_).congr
        fun _ rest => ?_)
    · by_cases empty : ds.isEmpty = true
      · rw [if_pos empty]
        exact (refuses_failAhead _).exact (by simp [empty])
      · rw [if_neg empty]
        exact exact_pure.congr (by simp [empty])
    · constructor
      · rintro ⟨_, mid, ⟨ds, rfl, digits, ends, rfl⟩, some, rfl⟩
        rw [filterMap_digit_isEmpty digits, List.isEmpty_eq_false_iff] at some
        exact ⟨'.' :: ds, rfl, .inr ⟨ds, rfl, some, digits, ends⟩⟩
      · rintro ⟨_, h, ⟨rfl, no⟩ | ⟨ds, rfl, some, digits, ends⟩⟩
        · cases h; exact absurd rfl no
        · cases h
          refine ⟨_, rest, ⟨ds, rfl, digits, ends, rfl⟩, ?_, rfl⟩
          rw [filterMap_digit_isEmpty digits, List.isEmpty_eq_false_iff]
          exact some
  · have other : (cs.head? == some '.') = false := by simpa using point
    rw [other]
    refine exact_pure.congr fun _ rest => ?_
    constructor
    · rintro ⟨_, rfl⟩
      exact ⟨[], rfl, .inl ⟨rfl, point⟩⟩
    · rintro ⟨_, rfl, ⟨rfl, _⟩ | ⟨ds, rfl, _⟩⟩
      · exact ⟨rfl, rfl⟩
      · exact absurd rfl point

theorem exact_exponentNext {α : Type} {f : Bool → Reader α} {P : α → List Char → Prop}
    (h : Exact (f (cs.head? == some 'e' || cs.head? == some 'E')) cs P) :
    Exact (exponentNext >>= f) cs P := h

/-- A sign is taken where one is next. -/
theorem exact_exponentSign : Exact exponentSign cs fun down rest =>
    (down = false ∧ cs = '+' :: rest) ∨ (down = true ∧ cs = '-' :: rest) ∨
    (down = false ∧ rest = cs ∧ cs.head? ≠ some '+' ∧ cs.head? ≠ some '-') := by
  refine exact_peek ?_
  split
  · next h =>
    obtain ⟨cs, rfl⟩ := List.head?_eq_some_iff.mp h
    refine Exact.congr (exact_skip (f := fun _ => pure false) exact_pure) fun down rest => ?_
    simp [eq_comm]
  · next h =>
    obtain ⟨cs, rfl⟩ := List.head?_eq_some_iff.mp h
    refine Exact.congr (exact_skip (f := fun _ => pure true) exact_pure) fun down rest => ?_
    simp [eq_comm]
  · next plus minus =>
    refine exact_pure.congr fun down rest => ?_
    constructor
    · rintro ⟨rfl, rfl⟩
      exact .inr (.inr ⟨rfl, rfl, plus, minus⟩)
    · rintro (⟨_, rfl⟩ | ⟨_, rfl⟩ | ⟨rfl, rfl, _⟩)
      · exact absurd rfl plus
      · exact absurd rfl minus
      · exact ⟨rfl, rfl⟩

/-- The digits of an exponent. -/
theorem exact_exponentDigits : Exact (do
      if (← peek?).any Char.isDigit then do
        let _ ← digits
      else failAhead .badNumber) cs fun _ rest => ∃ ds, cs = ds ++ rest ∧ IsDigits ds rest := by
  refine exact_peek ?_
  by_cases digit : cs.head?.any Char.isDigit = true
  · rw [if_pos digit]
    refine (exact_digits.bind fun _ _ _ => exact_pure).congr fun _ rest => ?_
    constructor
    · rintro ⟨_, _, ⟨ds, rfl, digits, ends, _⟩, _, rfl⟩
      refine ⟨ds, rfl, ?_, digits, ends⟩
      rintro rfl
      obtain ⟨c, hc, hd⟩ := (Option.any_eq_true _ _).mp digit
      rw [ends c hc] at hd
      cases hd
    · rintro ⟨ds, rfl, _, digits, ends⟩
      exact ⟨_, rest, ⟨ds, rfl, digits, ends, rfl⟩, rfl, rfl⟩
  · rw [if_neg digit]
    refine (refuses_failAhead _).exact ?_
    rintro _ rest ⟨ds, rfl, some, digits, _⟩
    cases ds with
    | nil => exact some rfl
    | cons d ds => exact digit (digits d (by simp))

theorem head?_of_isDigits {ds : List Char} (h : IsDigits ds rest) :
    (ds ++ rest).head? ≠ some '+' ∧ (ds ++ rest).head? ≠ some '-' := by
  obtain ⟨some, digits, _⟩ := h
  cases ds with
  | nil => exact absurd rfl some
  | cons d ds =>
    have := digits d (by simp)
    constructor
    · rintro h; cases h; cases this
    · rintro h; cases h; cases this

theorem exact_skipExponent : Exact skipExponent cs fun _ rest =>
    ∃ part, cs = part ++ rest ∧ IsExponent part rest := by
  refine exact_exponentNext ?_
  by_cases marked : cs.head? = some 'e' ∨ cs.head? = some 'E'
  · rw [if_pos (by simpa using marked)]
    obtain ⟨mark, cs, rfl, he⟩ : ∃ mark mid, cs = mark :: mid ∧ (mark = 'e' ∨ mark = 'E') := by
      rcases marked with h | h
      · obtain ⟨mid, rfl⟩ := List.head?_eq_some_iff.mp h
        exact ⟨_, mid, rfl, .inl rfl⟩
      · obtain ⟨mid, rfl⟩ := List.head?_eq_some_iff.mp h
        exact ⟨_, mid, rfl, .inr rfl⟩
    refine exact_skip ((exact_exponentSign.bind fun _ _ _ => exact_exponentDigits).congr
      fun _ rest => ?_)
    constructor
    · rintro ⟨_, _, ⟨_, rfl⟩ | ⟨_, rfl⟩ | ⟨_, rfl, _⟩, ds, rfl, hd⟩
      · exact ⟨mark :: (['+'] ++ ds), rfl, .inr ⟨mark, ['+'], ds, rfl, he, by simp [signs], hd⟩⟩
      · exact ⟨mark :: (['-'] ++ ds), rfl, .inr ⟨mark, ['-'], ds, rfl, he, by simp [signs], hd⟩⟩
      · exact ⟨mark :: ([] ++ ds), rfl, .inr ⟨mark, [], ds, rfl, he, by simp [signs], hd⟩⟩
    · rintro ⟨_, h, ⟨rfl, small, big⟩ | ⟨mark', sign, ds, rfl, _, hs, hd⟩⟩
      · rcases he with rfl | rfl
        · cases h; exact absurd rfl small
        · cases h; exact absurd rfl big
      · simp only [List.cons_append, List.append_assoc, List.cons.injEq] at h
        obtain ⟨rfl, rfl⟩ := h
        simp only [signs, List.mem_cons, List.not_mem_nil, or_false] at hs
        rcases hs with rfl | rfl | rfl
        · rw [List.nil_append]
          exact ⟨false, _, .inr (.inr ⟨rfl, rfl, head?_of_isDigits hd⟩), ds, rfl, hd⟩
        · exact ⟨false, _, .inl ⟨rfl, rfl⟩, ds, rfl, hd⟩
        · exact ⟨true, _, .inr (.inl ⟨rfl, rfl⟩), ds, rfl, hd⟩
  · rw [if_neg (by simpa using marked)]
    refine exact_pure.congr fun _ rest => ?_
    rw [not_or] at marked
    constructor
    · rintro ⟨_, rfl⟩
      exact ⟨[], rfl, .inl ⟨rfl, marked⟩⟩
    · rintro ⟨_, rfl, ⟨rfl, _⟩ | ⟨mark, sign, ds, rfl, he, _⟩⟩
      · exact ⟨rfl, rfl⟩
      · rcases he with rfl | rfl
        · exact absurd rfl marked.1
        · exact absurd rfl marked.2

theorem exact_skipNumber : Exact skipNumber cs fun _ rest =>
    ∃ numeral, cs = numeral ++ rest ∧ IsUnsigned numeral rest := by
  rw [skipNumber_eq]
  refine ((exact_wholePart _).bind fun _ _ _ => exact_skipFraction.bind fun _ _ _ =>
    exact_skipExponent).congr fun _ rest => ?_
  constructor
  · rintro ⟨_, _, ⟨whole, rfl, hw, _⟩, _, _, ⟨fraction, rfl, hf⟩, exponent, rfl, he⟩
    exact ⟨whole ++ (fraction ++ exponent), by simp, whole, fraction, exponent, rfl, hw, hf, he⟩
  · rintro ⟨_, rfl, whole, fraction, exponent, rfl, hw, hf, he⟩
    exact ⟨_, _, ⟨whole, by simp, hw, rfl⟩, (), _, ⟨fraction, rfl, hf⟩, exponent, rfl, he⟩

/-! ## Whole numbers -/

/-- The whole number that digits make, if its size fits. -/
def wholeNumber? (negative : Bool) (digits : List Char) : Option Int :=
  let scaled := Number.wholeDigits 0 (digits.filterMap digit?)
  if scaled.exponent = 0 then
    match Number.ofWhole negative scaled.significand with
    | .whole n => some n
    | .double _ => none
  else none

theorem wholeNumber?_eq_some {negative : Bool} {ds : List Char} {n : Int} :
    wholeNumber? negative ds = some n ↔
      (Number.wholeDigits 0 (ds.filterMap digit?)).exponent = 0 ∧
      Number.ofWhole negative (Number.wholeDigits 0 (ds.filterMap digit?)).significand =
        .whole n := by
  unfold wholeNumber?
  dsimp only
  by_cases fits : (Number.wholeDigits 0 (ds.filterMap digit?)).exponent = 0
  · rw [if_pos fits]
    cases Number.ofWhole negative (Number.wholeDigits 0 (ds.filterMap digit?)).significand with
    | whole m => simp [fits]
    | double x => simp
  · simp [fits]

end Reader

/-- The whole number that a numeral writes, if it writes one. -/
def integer? : List Char → Option Int
  | '-' :: digits => if digits.all Char.isDigit then Reader.wholeNumber? true digits else none
  | digits => if digits.all Char.isDigit then Reader.wholeNumber? false digits else none

theorem integer?_minus {digits : List Char} : integer? ('-' :: digits) =
    if digits.all Char.isDigit then Reader.wholeNumber? true digits else none := rfl

theorem integer?_unsigned {numeral : List Char} (h : IsUnsigned numeral rest) :
    integer? numeral =
      if numeral.all Char.isDigit then Reader.wholeNumber? false numeral else none := by
  obtain ⟨c, more, rfl, digit⟩ := Tree.opens_of_isUnsigned h
  unfold integer?
  split
  · next h => cases h; cases digit
  · rfl

namespace Reader

def IsDouble (n : Number) : Prop := ∃ x, n = .double x

theorem only_exponentPart (negative : Bool) (start : Number.Scaled) :
    Only (exponentPart negative start) IsDouble := by
  unfold exponentPart
  refine Only.after fun _ => Only.after fun down => Only.after fun here => Only.after fun next => ?_
  extract_lets value
  have double : ∀ taken, Only (value taken) IsDouble := by
    refine fun _ => Only.after fun ds => ?_
    split
    · dsimp only
      split
      · exact only_pure ⟨_, rfl⟩
      · exact only_fail _
    · split
      · exact nofun
      · exact only_pure ⟨_, rfl⟩
  split
  · exact Only.after double
  · split
    · exact double ()
    · exact Only.after double

theorem only_doubleRest (negative : Bool) (start : Number.Scaled) :
    Only (doubleRest negative start) IsDouble := by
  refine Only.after fun next => ?_
  split
  · exact only_exponentPart negative start
  · split
    · exact only_pure ⟨_, rfl⟩
    · exact only_fail _

variable {α : Type} {f : Number → Reader α}

theorem isUnsigned_of_digits {numeral : List Char} (digits : numeral.all Char.isDigit = true) :
    IsUnsigned numeral rest ↔ IsWhole numeral rest ∧ rest.head? ≠ some '.' ∧
      rest.head? ≠ some 'e' ∧ rest.head? ≠ some 'E' := by
  constructor
  · rintro ⟨whole, fraction, exponent, rfl, hw, hf, he⟩
    simp only [List.all_append, Bool.and_eq_true] at digits
    rcases hf with ⟨rfl, point⟩ | ⟨ds, rfl, _⟩
    · rcases he with ⟨rfl, small, big⟩ | ⟨mark, sign, ds, rfl, rfl | rfl, _⟩
      · simpa using ⟨hw, point, small, big⟩
      · exact absurd digits.2.2 (by simp)
      · exact absurd digits.2.2 (by simp)
    · exact absurd digits.2.1 (by simp)
  · rintro ⟨hw, point, small, big⟩
    exact ⟨numeral, [], [], by simp, by simpa using hw, .inl ⟨rfl, point⟩, .inl ⟨rfl, small, big⟩⟩

/-- Behind a point there is a double. -/
theorem only_fractionPart (negative : Bool) (start : Number.Scaled) : Only (do
      skip
      let fraction ← digits
      if fraction.isEmpty then
        if (← peek?).isNone then fail .endInValue else failAhead .badNumber
      else doubleRest negative (Number.fractionDigits start fraction)) IsDouble := by
  refine Only.after fun _ => Only.after fun fraction => ?_
  split
  · refine Only.after fun next => ?_
    split
    · exact only_fail _
    · exact only_failAhead _
  · exact only_doubleRest negative _

section
variable (negative : Bool) {Q : Int → List Char → α → List Char → Prop}
  (double : ∀ x mid, Refuses (f (.double x)) mid)
  (whole : ∀ n mid, Exact (f (.whole n)) mid (Q n mid))
include double whole

/-- The value of the digits before the point is whole if it fits and no exponent follows. -/
theorem exact_wholeValue (start : Number.Scaled) : Exact ((do
      if start.exponent = 0 && !(← exponentNext) then
        return Number.ofWhole negative start.significand
      else doubleRest negative start) >>= f) cs fun a rest =>
        cs.head? ≠ some 'e' ∧ cs.head? ≠ some 'E' ∧ start.exponent = 0 ∧
        ∃ n, Number.ofWhole negative start.significand = .whole n ∧ Q n cs a rest := by
  have noDouble : Refuses (doubleRest negative start >>= f) cs := by
    refine (only_doubleRest negative start).refuses ?_
    rintro _ ⟨x, rfl⟩
    exact double x
  rw [bind_assoc]
  refine exact_exponentNext ?_
  by_cases marked : cs.head? = some 'e' ∨ cs.head? = some 'E'
  · rw [if_neg (by rcases marked with h | h <;> simp [h])]
    refine noDouble.exact ?_
    rintro _ _ ⟨small, big, _⟩
    exact marked.elim small big
  rw [not_or] at marked
  by_cases fits : start.exponent = 0
  · rw [if_pos (by simp [fits, marked])]
    cases value : Number.ofWhole negative start.significand with
    | double x => exact (double x cs).exact (by simp)
    | whole n =>
      refine (whole n cs).congr fun a rest => ?_
      constructor
      · intro h
        exact ⟨marked.1, marked.2, fits, n, rfl, h⟩
      · rintro ⟨_, _, _, n', h, hQ⟩
        cases h
        exact hQ
  · rw [if_neg (by simp [fits])]
    exact noDouble.exact fun _ _ no => fits no.2.2.1

/-- **Where doubles are refused, a numeral is read for the whole number that it writes.** -/
theorem exact_number : Exact (number negative >>= f) cs fun a rest => ∃ digits mid n,
    cs = digits ++ mid ∧ digits.all Char.isDigit = true ∧ IsUnsigned digits mid ∧
      wholeNumber? negative digits = some n ∧ Q n mid a rest := by
  unfold number
  rw [bind_assoc]
  refine ((exact_wholePart .endInValue).bind (R := fun ds mid a rest => mid.head? ≠ some '.' ∧
    mid.head? ≠ some 'e' ∧ mid.head? ≠ some 'E' ∧ (Number.wholeDigits 0 ds).exponent = 0 ∧
    ∃ n, Number.ofWhole negative (Number.wholeDigits 0 ds).significand = .whole n ∧ Q n mid a rest)
    fun ds mid _ => ?_).congr fun a rest => ?_
  · dsimp only
    rw [bind_assoc]
    refine exact_peek ?_
    split
    · next point =>
      refine Refuses.exact ((only_fractionPart negative _).refuses ?_) fun _ _ no => no.1 point
      rintro _ ⟨x, rfl⟩
      exact double x
    · next point =>
      exact (exact_wholeValue negative double whole _).congr fun a rest =>
        (and_iff_right point).symm
  · constructor
    · rintro ⟨_, mid, ⟨digits, rfl, hw, rfl⟩, point, small, big, fits, n, value, hQ⟩
      have all : digits.all Char.isDigit = true := List.all_eq_true.mpr hw.1.2.1
      exact ⟨digits, mid, n, rfl, all, (isUnsigned_of_digits all).mpr ⟨hw, point, small, big⟩,
        wholeNumber?_eq_some.mpr ⟨fits, value⟩, hQ⟩
    · rintro ⟨digits, mid, n, rfl, all, hu, value, hQ⟩
      obtain ⟨hw, point, small, big⟩ := (isUnsigned_of_digits all).mp hu
      obtain ⟨fits, value⟩ := wholeNumber?_eq_some.mp value
      exact ⟨_, mid, ⟨digits, rfl, hw, rfl⟩, point, small, big, fits, n, value, hQ⟩

end

end Reader
end GrammarArtifact.Json
