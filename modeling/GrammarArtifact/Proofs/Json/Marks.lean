import GrammarArtifact.Proofs.Json.Tree

/-! # Reading strings

A string is read in two ways. Where its text counts it is taken apart into the
characters that its marks stand for; where nobody asks for it the marks are checked one
by one. Both pass over the same characters. -/

namespace GrammarArtifact.Json
variable {marks : List Mark} {cs rest : List Char}

/-! ## Marks

The first characters decide how a string goes on. -/

theorem not_written_nil : ¬ Written marks [] rest := by
  intro h
  cases h

theorem written_quote : Written marks ('"' :: cs) rest ↔ marks = [] ∧ rest = cs := by
  constructor
  · intro h
    cases h with
    | closed => exact ⟨rfl, rfl⟩
    | plain _ quote => exact absurd rfl quote
  · rintro ⟨rfl, rfl⟩
    exact .closed

theorem written_plain {c : Char} (quote : c ≠ '"') (backslash : c ≠ '\\') :
    Written marks (c :: cs) rest ↔
      0x20 ≤ c.toNat ∧ ∃ more, marks = .plain c :: more ∧ Written more cs rest := by
  constructor
  · intro h
    cases h with
    | closed => exact absurd rfl quote
    | plain visible _ _ h => exact ⟨visible, _, rfl, h⟩
    | short => exact absurd rfl backslash
    | code => exact absurd rfl backslash
  · rintro ⟨visible, more, rfl, h⟩
    exact .plain visible quote backslash h

theorem written_code : Written marks ('\\' :: 'u' :: cs) rest ↔
    ∃ digits mid more, cs = digits ++ mid ∧ (Reader.hexCode? digits).isSome ∧
      marks = .code digits :: more ∧ Written more mid rest := by
  constructor
  · intro h
    cases h with
    | plain _ _ backslash => exact absurd rfl backslash
    | short known => cases known
    | code known taken h => exact ⟨_, _, _, taken, known, rfl, h⟩
  · rintro ⟨digits, mid, more, taken, known, rfl, h⟩
    exact .code known taken h

theorem written_short {letter : Char} (unicode : letter ≠ 'u') :
    Written marks ('\\' :: letter :: cs) rest ↔
      (Reader.shortEscape? letter).isSome ∧
        ∃ more, marks = .short letter :: more ∧ Written more cs rest := by
  constructor
  · intro h
    cases h with
    | plain _ _ backslash => exact absurd rfl backslash
    | short known h => exact ⟨known, _, rfl, h⟩
    | code => exact absurd rfl unicode
  · rintro ⟨known, more, rfl, h⟩
    exact .short known h

/-! ## What marks stand for -/

/-- Behind an opening quote the text writes these characters up to the closing quote. -/
def Writes (meant cs rest : List Char) : Prop :=
  ∃ marks, Written marks cs rest ∧ Mark.meaning? marks = some meant

/-- Behind a backslash the text writes this character, and the rest comes behind it. -/
inductive EscapeBegins : (cs : List Char) → Char → (rest : List Char) → Prop where
  | short {letter c : Char} {rest : List Char} (known : Reader.shortEscape? letter = some c) :
      EscapeBegins (letter :: rest) c rest
  | code {digits rest : List Char} {n : Nat} (known : Reader.hexCode? digits = some n)
      (low : Mark.isLow n = false) (high : Mark.isHigh n = false) :
      EscapeBegins ('u' :: (digits ++ rest)) (Char.ofNat n) rest
  | pair {digits digits' rest : List Char} {m n : Nat} (known : Reader.hexCode? digits = some m)
      (high : Mark.isHigh m = true) (known' : Reader.hexCode? digits' = some n)
      (low : Mark.isLow n = true) :
      EscapeBegins ('u' :: (digits ++ '\\' :: 'u' :: (digits' ++ rest))) (Mark.pair m n) rest

variable {meant : List Char}

theorem Mark.isHigh_iff {n : Nat} : isHigh n = true ↔ 0xD800 ≤ n ∧ n ≤ 0xDBFF := by
  simp [isHigh]

theorem Mark.isLow_iff {n : Nat} : isLow n = true ↔ 0xDC00 ≤ n ∧ n ≤ 0xDFFF := by
  simp [isLow]

theorem Mark.isLow_of_isHigh {n : Nat} (h : isHigh n = true) : isLow n = false := by
  rw [isHigh_iff] at h
  rw [← Bool.not_eq_true, isLow_iff]
  omega

theorem not_writes_nil : ¬ Writes meant [] rest := fun ⟨_, h, _⟩ => not_written_nil h

theorem writes_quote : Writes meant ('"' :: cs) rest ↔ meant = [] ∧ rest = cs := by
  simp only [Writes, written_quote]
  constructor
  · rintro ⟨_, ⟨rfl, rfl⟩, h⟩
    exact ⟨(Option.some.inj h).symm, rfl⟩
  · rintro ⟨rfl, rfl⟩
    exact ⟨[], ⟨rfl, rfl⟩, rfl⟩

theorem writes_plain {c : Char} (quote : c ≠ '"') (backslash : c ≠ '\\') :
    Writes meant (c :: cs) rest ↔
      0x20 ≤ c.toNat ∧ ∃ more, meant = c :: more ∧ Writes more cs rest := by
  simp only [Writes, written_plain quote backslash]
  constructor
  · rintro ⟨_, ⟨visible, marks, rfl, h⟩, hm⟩
    obtain ⟨more, hmore, rfl⟩ := Option.map_eq_some_iff.mp hm
    exact ⟨visible, more, rfl, marks, h, hmore⟩
  · rintro ⟨visible, more, rfl, marks, h, hmore⟩
    exact ⟨_, ⟨visible, marks, rfl, h⟩, Option.map_eq_some_iff.mpr ⟨more, hmore, rfl⟩⟩

/-- An escape stands for one character, also where two marks write it. -/
theorem writes_escape : Writes meant ('\\' :: cs) rest ↔
    ∃ c mid more, EscapeBegins cs c mid ∧ meant = c :: more ∧ Writes more mid rest := by
  constructor
  · rintro ⟨marks, h, hm⟩
    cases h with
    | plain _ _ backslash => exact absurd rfl backslash
    | short known h =>
      obtain ⟨c, hc⟩ := Option.isSome_iff_exists.mp known
      rw [Mark.meaning?, hc, Option.bind_some, Option.map_eq_some_iff] at hm
      obtain ⟨more, hmore, rfl⟩ := hm
      exact ⟨c, _, more, .short hc, rfl, _, h, hmore⟩
    | @code digits marks _ mid _ known taken h =>
      obtain ⟨n, hn⟩ := Option.isSome_iff_exists.mp known
      subst taken
      rw [Mark.meaning?, hn, Option.bind_some] at hm
      by_cases low : Mark.isLow n = true
      · simp [low] at hm
      by_cases high : Mark.isHigh n = true
      · simp only [low, Bool.false_eq_true, if_false, high, if_true] at hm
        cases h with
        | @code digits' marks' _ mid' _ known' taken' h' =>
          obtain ⟨n', hn'⟩ := Option.isSome_iff_exists.mp known'
          subst taken'
          simp only [hn', Option.bind_some] at hm
          by_cases low' : Mark.isLow n' = true
          · rw [if_pos low', Option.map_eq_some_iff] at hm
            obtain ⟨more, hmore, rfl⟩ := hm
            exact ⟨_, mid', more, .pair hn high hn' low', rfl, marks', h', hmore⟩
          · simp [low'] at hm
        | _ => cases hm
      · simp only [low, Bool.false_eq_true, if_false, high, Option.map_eq_some_iff] at hm
        obtain ⟨more, hmore, rfl⟩ := hm
        exact ⟨_, mid, more, .code hn (by simpa using low) (by simpa using high), rfl, marks, h,
          hmore⟩
  · rintro ⟨c, mid, more, escape, rfl, marks, h, hm⟩
    cases escape with
    | short known =>
      exact ⟨_, .short (by simp [known]) h, by simp [Mark.meaning?, known, hm]⟩
    | code known low high =>
      exact ⟨_, .code (by simp [known]) rfl h, by simp [Mark.meaning?, known, low, high, hm]⟩
    | pair known high known' low =>
      exact ⟨_, .code (by simp [known]) rfl (.code (by simp [known']) rfl h), by
        simp [Mark.meaning?, known, high, Mark.isLow_of_isHigh high, known', low, hm]⟩

namespace Reader

/-! ## Escapes -/

theorem length_of_hexCode {digits : List Char} {n : Nat} (h : hexCode? digits = some n) :
    digits.length = 4 := by
  unfold hexCode? at h
  split at h
  · rfl
  · cases h

theorem exact_hexEscape : Exact hexEscape cs fun n rest =>
    ∃ digits, cs = digits ++ rest ∧ hexCode? digits = some n := by
  intro k n rest
  have taken {n : Nat} (h : hexCode? (cs.take 4) = some n) :
      hexEscape.run ⟨cs, k⟩ = .ok (n, ⟨cs.drop 4, k + 4⟩) := by
    simp [hexEscape, h]
    rfl
  have refused (h : hexCode? (cs.take 4) = none) : ∃ e, hexEscape.run ⟨cs, k⟩ = .error e := by
    simp [hexEscape, h]
    exact ⟨_, rfl⟩
  constructor
  · rintro ⟨m, hm⟩
    cases h : hexCode? (cs.take 4) with
    | none =>
      obtain ⟨e, he⟩ := refused h
      cases he.symm.trans hm
    | some n' =>
      cases (taken h).symm.trans hm
      exact ⟨cs.take 4, (List.take_append_drop 4 cs).symm, h⟩
  · rintro ⟨digits, rfl, h⟩
    have front : (digits ++ rest).take 4 = digits := List.take_left' (length_of_hexCode h)
    have behind : (digits ++ rest).drop 4 = rest := List.drop_left' (length_of_hexCode h)
    refine ⟨k + 4, ?_⟩
    rw [taken (front.symm ▸ h), behind]

theorem exact_pairPart (expected : Char) :
    Exact (pairPart expected) cs fun _ rest => cs = expected :: rest := by
  refine exact_peek ?_
  cases cs with
  | nil => exact (refuses_fail _).exact (by simp)
  | cons c cs =>
    dsimp only [List.head?_cons]
    by_cases h : c = expected
    · rw [if_pos h]
      exact exact_skip_only.congr (by simp [h, eq_comm])
    · rw [if_neg h]
      exact (refuses_failAhead _).exact (by simp [h])

/-- The second half of a surrogate pair. -/
theorem exact_lowHalf (high : Nat) : Exact (do
      pairPart '\\'
      pairPart 'u'
      let low ← hexEscape
      if 0xDC00 ≤ low ∧ low ≤ 0xDFFF then
        return Char.ofNat (0x10000 + (high - 0xD800) * 0x400 + (low - 0xDC00))
      else fail .loneSurrogate) cs fun c rest =>
    ∃ digits low, cs = '\\' :: 'u' :: (digits ++ rest) ∧ hexCode? digits = some low ∧
      Mark.isLow low = true ∧ c = Mark.pair high low := by
  refine ((exact_pairPart _).bind fun _ _ _ => (exact_pairPart _).bind fun _ _ _ =>
    exact_hexEscape.bind (R := fun low rest' c rest =>
      Mark.isLow low = true ∧ c = Mark.pair high low ∧ rest = rest') fun low rest _ => ?_).congr ?_
  · rw [Mark.isLow_iff]
    by_cases h : 0xDC00 ≤ low ∧ low ≤ 0xDFFF
    · rw [if_pos h]
      exact exact_pure.congr fun c rest => (and_iff_right h).symm
    · rw [if_neg h]
      exact (refuses_fail _).exact fun _ _ given => h given.1
  · intro c rest
    constructor
    · rintro ⟨_, _, rfl, _, _, rfl, low, _, ⟨digits, rfl, hd⟩, hl, hc, rfl⟩
      exact ⟨digits, low, rfl, hd, hl, hc⟩
    · rintro ⟨digits, low, rfl, hd, hl, hc⟩
      exact ⟨(), _, rfl, (), _, rfl, low, rest, ⟨digits, rfl, hd⟩, hl, hc, rfl⟩

theorem exact_unicodeEscape :
    Exact unicodeEscape cs fun c rest => EscapeBegins ('u' :: cs) c rest := by
  refine (exact_hexEscape.bind (R := fun n mid c rest =>
    (Mark.isLow n = false ∧ Mark.isHigh n = false ∧ c = Char.ofNat n ∧ rest = mid) ∨
    (Mark.isHigh n = true ∧ ∃ digits low, mid = '\\' :: 'u' :: (digits ++ rest) ∧
      hexCode? digits = some low ∧ Mark.isLow low = true ∧ c = Mark.pair n low))
    fun n mid _ => ?_).congr ?_
  · rw [← Bool.not_eq_true, ← Bool.not_eq_true, Mark.isLow_iff, Mark.isHigh_iff]
    by_cases low : 0xDC00 ≤ n ∧ n ≤ 0xDFFF
    · rw [if_pos low]
      refine (refuses_fail _).exact ?_
      rintro c rest (⟨no, _⟩ | ⟨high, _⟩)
      · exact no low
      · omega
    rw [if_neg low]
    by_cases high : 0xD800 ≤ n ∧ n ≤ 0xDBFF
    · rw [if_pos high]
      refine (exact_lowHalf n).congr fun c rest => ?_
      simp only [low, high, not_true, false_and, and_false, false_or, true_and]
    · rw [if_neg high]
      refine exact_pure.congr fun c rest => ?_
      simp only [low, high, not_false_iff, true_and, false_and, or_false]
  · intro c rest
    constructor
    · rintro ⟨n, mid, ⟨digits, rfl, hd⟩, ⟨low, high, hc, rfl⟩ |
        ⟨high, digits', n', rfl, hd', low, hc⟩⟩
      · rw [hc]
        exact .code hd low high
      · rw [hc]
        exact .pair hd high hd' low
    · intro h
      cases h with
      | short known => cases known
      | code known low high => exact ⟨_, _, ⟨_, rfl, known⟩, .inl ⟨low, high, rfl, rfl⟩⟩
      | pair known high known' low =>
        exact ⟨_, _, ⟨_, rfl, known⟩, .inr ⟨high, _, _, rfl, known', low, rfl⟩⟩

theorem exact_escape : Exact escape cs fun c rest => EscapeBegins cs c rest := by
  refine exact_peek ?_
  cases cs with
  | nil => exact (refuses_fail _).exact nofun
  | cons c cs =>
    dsimp only [List.head?_cons]
    split
    · next h => cases h
    · next h =>
      cases h
      exact exact_skip exact_unicodeEscape
    · next c' unicode h =>
      cases h
      cases known : shortEscape? c with
      | none =>
        refine (refuses_failAhead _).exact ?_
        intro c' rest h
        cases h with
        | short known' => rw [known] at known'; cases known'
        | code => exact unicode rfl
        | pair => exact unicode rfl
      | some meant =>
        refine Exact.congr (exact_skip (f := fun _ => pure meant) exact_pure) ?_
        intro c' rest
        constructor
        · rintro ⟨rfl, rfl⟩
          exact .short known
        · intro h
          cases h with
          | short known' => exact ⟨Option.some.inj (known'.symm.trans known), rfl⟩
          | code => exact absurd rfl unicode
          | pair => exact absurd rfl unicode

/-! ## Strings that are asked for -/

theorem length_of_escape {c : Char} (h : EscapeBegins cs c rest) : rest.length < cs.length := by
  cases h with
  | short => simp
  | code => simp only [List.length_cons, List.length_append]; omega
  | pair => simp only [List.length_cons, List.length_append]; omega

theorem exact_stringRest {bound done : List Char} (enough : cs.length ≤ bound.length) :
    Exact (stringRest bound done) cs fun s rest =>
      ∃ meant, Writes meant cs rest ∧ s = String.ofList (done.reverse ++ meant) := by
  induction bound generalizing cs done with
  | nil =>
    have empty : cs = [] := List.length_eq_zero_iff.mp (by simpa using enough)
    subst empty
    exact (refuses_fail _).exact fun _ _ ⟨_, h, _⟩ => not_writes_nil h
  | cons _ bound ih =>
    refine exact_peek ?_
    cases cs with
    | nil => exact (refuses_fail _).exact fun _ _ ⟨_, h, _⟩ => not_writes_nil h
    | cons c cs =>
      rw [List.length_cons, List.length_cons, Nat.add_le_add_iff_right] at enough
      dsimp only [List.head?_cons]
      split
      · next h => cases h
      · next h =>
        cases h
        refine Exact.congr (exact_skip (f := fun _ => pure _) exact_pure) fun s rest => ?_
        simp only [writes_quote]
        constructor
        · rintro ⟨rfl, rfl⟩
          exact ⟨[], ⟨rfl, rfl⟩, by rw [List.append_nil]⟩
        · rintro ⟨_, ⟨rfl, rfl⟩, rfl⟩
          exact ⟨by rw [List.append_nil], rfl⟩
      · next h =>
        cases h
        refine (exact_skip (exact_escape.bind fun c mid h => ih ?_)).congr fun s rest => ?_
        · have := length_of_escape h
          omega
        · simp only [writes_escape]
          constructor
          · rintro ⟨c, mid, hc, more, hm, rfl⟩
            exact ⟨c :: more, ⟨c, mid, more, hc, rfl, hm⟩, by simp⟩
          · rintro ⟨_, ⟨c, mid, more, hc, rfl, hm⟩, rfl⟩
            exact ⟨c, mid, hc, more, hm, by simp⟩
      · next c' quote backslash h =>
        cases h
        refine exact_skip ?_
        simp only [writes_plain quote backslash]
        by_cases visible : c.toNat < 0x20
        · rw [if_pos visible]
          exact (refuses_fail _).exact fun _ _ ⟨_, ⟨no, _⟩, _⟩ => by omega
        · rw [if_neg visible]
          refine (ih enough).congr fun s rest => ?_
          constructor
          · rintro ⟨more, hm, rfl⟩
            exact ⟨c :: more, ⟨by omega, more, rfl, hm⟩, by simp⟩
          · rintro ⟨_, ⟨_, more, rfl, hm⟩, rfl⟩
            exact ⟨more, hm, by simp⟩

/-- A string whose opening quote is next is read as the characters that its marks stand for. -/
theorem exact_string {c : Char} : Exact string (c :: cs) fun s rest =>
    ∃ marks, Written marks cs rest ∧ Mark.text? marks = some s := by
  have body : Exact (stringRest cs []) cs _ := exact_stringRest (Nat.le_refl _)
  refine Exact.congr (exact_skip (f := fun _ => do stringRest (← get).rest [])
    (exact_get fun _ => body)) fun s rest => ?_
  constructor
  · rintro ⟨meant, ⟨marks, h, hm⟩, rfl⟩
    exact ⟨marks, h, by simp [Mark.text?, hm]⟩
  · rintro ⟨marks, h, hs⟩
    obtain ⟨meant, hm, rfl⟩ := Option.map_eq_some_iff.mp hs
    exact ⟨meant, ⟨marks, h, hm⟩, by simp⟩

/-! ## Strings that are passed over -/

theorem exact_skipEscape : Exact skipEscape cs fun _ rest =>
    (∃ letter, cs = letter :: rest ∧ (shortEscape? letter).isSome) ∨
    ∃ digits, cs = 'u' :: (digits ++ rest) ∧ (hexCode? digits).isSome := by
  refine exact_peek ?_
  cases cs with
  | nil => exact (refuses_fail _).exact (by simp)
  | cons c cs =>
    dsimp only [List.head?_cons]
    split
    · next h => cases h
    · next h =>
      cases h
      refine (exact_skip (exact_hexEscape.bind fun n mid _ => exact_pure)).congr fun _ rest => ?_
      constructor
      · rintro ⟨n, mid, ⟨digits, rfl, hd⟩, _, rfl⟩
        exact .inr ⟨digits, rfl, by simp [hd]⟩
      · rintro (⟨letter, h, known⟩ | ⟨digits, h, known⟩)
        · cases h
          cases known
        · cases h
          obtain ⟨n, hn⟩ := Option.isSome_iff_exists.mp known
          exact ⟨n, rest, ⟨digits, rfl, hn⟩, rfl, rfl⟩
    · next c' unicode h =>
      cases h
      by_cases known : (shortEscape? c).isSome
      · rw [if_pos known]
        refine exact_skip_only.congr fun _ rest => ?_
        constructor
        · rintro rfl
          exact .inl ⟨c, rfl, known⟩
        · rintro (⟨letter, h, _⟩ | ⟨digits, h, _⟩)
          · cases h; rfl
          · cases h; exact absurd rfl unicode
      · rw [if_neg known]
        refine (refuses_failAhead _).exact fun _ rest => ?_
        rintro (⟨letter, h, known'⟩ | ⟨digits, h, _⟩)
        · cases h; exact known known'
        · cases h; exact unicode rfl

theorem exact_skipStringRest {bound : List Char} (enough : cs.length ≤ bound.length) :
    Exact (skipStringRest bound) cs fun _ rest => ∃ marks, Written marks cs rest := by
  induction bound generalizing cs with
  | nil =>
    have empty : cs = [] := List.length_eq_zero_iff.mp (by simpa using enough)
    subst empty
    exact (refuses_fail _).exact fun _ _ ⟨_, h⟩ => not_written_nil h
  | cons _ bound ih =>
    refine exact_peek ?_
    cases cs with
    | nil => exact (refuses_fail _).exact fun _ _ ⟨_, h⟩ => not_written_nil h
    | cons c cs =>
      rw [List.length_cons, List.length_cons, Nat.add_le_add_iff_right] at enough
      dsimp only [List.head?_cons]
      split
      · next h => cases h
      · next h =>
        cases h
        exact exact_skip_only.congr fun _ rest => by simp [written_quote]
      · next h =>
        cases h
        refine (exact_skip (exact_skipEscape.bind fun _ mid h => ih ?_)).congr fun _ rest => ?_
        · rcases h with ⟨letter, rfl, _⟩ | ⟨digits, rfl, _⟩
          · simp at enough; omega
          · simp at enough; omega
        · constructor
          · rintro ⟨_, mid, ⟨letter, rfl, known⟩ | ⟨digits, rfl, known⟩, marks, h⟩
            · exact ⟨_, .short known h⟩
            · exact ⟨_, .code known rfl h⟩
          · rintro ⟨marks, h⟩
            cases h with
            | plain _ _ backslash => exact absurd rfl backslash
            | short known h => exact ⟨(), _, .inl ⟨_, rfl, known⟩, _, h⟩
            | code known taken h => exact ⟨(), _, .inr ⟨_, by rw [taken], known⟩, _, h⟩
      · next c' quote backslash h =>
        cases h
        simp only [written_plain quote backslash]
        by_cases visible : c.toNat < 0x20
        · rw [if_pos visible]
          exact (refuses_fail _).exact fun _ _ ⟨_, no, _⟩ => by omega
        · rw [if_neg visible]
          refine (exact_skip (ih enough)).congr fun _ rest => ?_
          constructor
          · rintro ⟨marks, h⟩
            exact ⟨_, by omega, marks, rfl, h⟩
          · rintro ⟨_, _, marks, rfl, h⟩
            exact ⟨marks, h⟩

theorem exact_skipString {c : Char} :
    Exact skipString (c :: cs) fun _ rest => ∃ marks, Written marks cs rest :=
  exact_skip (exact_get fun _ => exact_skipStringRest (Nat.le_refl _))

end Reader
end GrammarArtifact.Json
