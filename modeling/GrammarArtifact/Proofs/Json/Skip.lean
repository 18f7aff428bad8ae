import GrammarArtifact.Proofs.Json.Marks
import GrammarArtifact.Proofs.Json.Numeral

/-! # Passing over any value

A value that nobody asks for is passed over with a stack of open brackets. What the
stack demands of the text is `Closes`: each bracket is brought to its end, the innermost
first. The reader then takes just the texts that begin with a spelling of some value,
however deep the value is. -/

namespace GrammarArtifact.Json
variable {cs rest : List Char}

/-! ## Words and colons -/

namespace Reader

theorem exact_word (w : List Char) : Exact (word w) cs fun _ rest => cs = w ++ rest := by
  induction w generalizing cs with
  | nil => exact exact_pure.congr (by simp [eq_comm])
  | cons expected more ih =>
    refine exact_peek ?_
    cases cs with
    | nil => exact (refuses_fail _).exact (by simp)
    | cons c cs =>
      dsimp only [List.head?_cons]
      by_cases h : c = expected
      · rw [if_pos h]
        exact (exact_skip ih).congr (by simp [h])
      · rw [if_neg h]
        exact (refuses_failAhead _).exact (by simp [h])

theorem exact_colon : Exact colon cs fun _ rest => dropBlanks cs = ':' :: rest := by
  refine exact_peekToken ?_
  cases h : dropBlanks cs with
  | nil => exact (refuses_fail _).exact (by simp)
  | cons c more =>
    dsimp only [List.head?_cons]
    split
    · next h => cases h; exact exact_skip_only.congr (by simp [eq_comm])
    · next other h' =>
      cases h'
      exact (refuses_failAhead _).exact fun _ _ h => other (List.cons.inj h).1
    · next h => cases h

end Reader

/-! ## Scalars and brackets -/

namespace Bracket

def opening : Bracket → Char
  | list => '['
  | object => '{'

/-- The text begins with the members that are left in a bracket, and the rest comes behind it. -/
def Inside : Bracket → (first : Bool) → (cs rest : List Char) → Prop
  | list, first, cs, rest => ∃ items, Tree.ItemsBegin items first cs rest
  | object, first, cs, rest => ∃ members, Tree.MembersBegin members first cs rest

/-- In an object a key stands before a value. -/
def Keyed : Bracket → (cs rest : List Char) → Prop
  | list, cs, rest => rest = cs
  | object, cs, rest => ∃ key, KeyBegins key cs rest

/-- Either the bracket is closed, or another member follows. -/
theorem inside_iff {bracket : Bracket} {first : Bool} : bracket.Inside first cs rest ↔
    dropBlanks cs = bracket.closing :: rest ∨
    ∃ start value mid, Follows first cs start ∧ bracket.Keyed start value ∧
      (∃ v : Tree, v.Begins value mid) ∧ bracket.Inside false mid rest := by
  cases bracket with
  | list =>
    constructor
    · rintro ⟨_ | ⟨v, vs⟩, h⟩
      · exact .inl h
      · obtain ⟨start, mid, follows, hv, hvs⟩ := h
        exact .inr ⟨start, start, mid, follows, rfl, ⟨v, hv⟩, vs, hvs⟩
    · rintro (h | ⟨start, _, mid, follows, rfl, ⟨v, hv⟩, vs, hvs⟩)
      · exact ⟨[], h⟩
      · exact ⟨v :: vs, _, mid, follows, hv, hvs⟩
  | object =>
    constructor
    · rintro ⟨_ | ⟨⟨key, v⟩, ms⟩, h⟩
      · exact .inl h
      · obtain ⟨start, value, mid, follows, hk, hv, hms⟩ := h
        exact .inr ⟨start, value, mid, follows, ⟨key, hk⟩, ⟨v, hv⟩, ms, hms⟩
    · rintro (h | ⟨start, value, mid, follows, ⟨key, hk⟩, ⟨v, hv⟩, ms, hms⟩)
      · exact ⟨[], h⟩
      · exact ⟨(key, v) :: ms, start, value, mid, follows, hk, hv, hms⟩

end Bracket

namespace Tree

def IsScalar : Tree → Prop
  | list _ => False
  | object _ => False
  | _ => True

/-- A value is a scalar, or begins with a bracket. -/
theorem begins_iff {cs rest : List Char} : (∃ v : Tree, v.Begins cs rest) ↔
    (∃ v : Tree, v.IsScalar ∧ v.Begins cs rest) ∨
    ∃ (bracket : Bracket) (inside : List Char),
      dropBlanks cs = bracket.opening :: inside ∧ bracket.Inside true inside rest := by
  constructor
  · rintro ⟨v, h⟩
    cases v with
    | list items =>
      obtain ⟨inside, first, h⟩ := h
      exact .inr ⟨.list, inside, first, items, h⟩
    | object members =>
      obtain ⟨inside, first, h⟩ := h
      exact .inr ⟨.object, inside, first, members, h⟩
    | null => exact .inl ⟨null, trivial, h⟩
    | boolean b => exact .inl ⟨boolean b, trivial, h⟩
    | number numeral => exact .inl ⟨number numeral, trivial, h⟩
    | text marks => exact .inl ⟨text marks, trivial, h⟩
  · rintro (⟨v, _, h⟩ | ⟨bracket, inside, first, h⟩)
    · exact ⟨v, h⟩
    · cases bracket with
      | list =>
        obtain ⟨items, h⟩ := h
        exact ⟨.list items, inside, first, h⟩
      | object =>
        obtain ⟨members, h⟩ := h
        exact ⟨.object members, inside, first, h⟩

end Tree

namespace Reader
open Json.Tree

/-- The start of a value is a whole scalar, or an opening bracket. -/
def Starts (cs : List Char) : Option Bracket → (rest : List Char) → Prop
  | none, rest => ∃ v : Tree, v.IsScalar ∧ v.Begins cs rest
  | some bracket, rest => dropBlanks cs = bracket.opening :: rest

theorem starts_bracket {bracket : Bracket} {more : List Char} {b : Option Bracket}
    (first : dropBlanks cs = bracket.opening :: more) :
    Starts cs b rest ↔ b = some bracket ∧ rest = more := by
  cases b with
  | none =>
    constructor
    · rintro ⟨v, scalar, h⟩
      have opens := h.opens_of first
      cases bracket with
      | list => obtain ⟨_, rfl⟩ := opens.eq_list; exact scalar.elim
      | object => obtain ⟨_, rfl⟩ := opens.eq_object; exact scalar.elim
    · rintro ⟨h, _⟩
      cases h
  | some b =>
    change dropBlanks cs = b.opening :: rest ↔ _
    rw [first, List.cons.injEq, Option.some.injEq]
    cases bracket <;> cases b <;> simp [Bracket.opening, eq_comm]

theorem starts_scalar {c : Char} {more : List Char} {b : Option Bracket}
    (first : dropBlanks cs = c :: more) (list : c ≠ '[') (object : c ≠ '{') :
    Starts cs b rest ↔ b = none ∧ ∃ v : Tree, v.Begins cs rest := by
  cases b with
  | none =>
    constructor
    · rintro ⟨v, _, h⟩
      exact ⟨rfl, v, h⟩
    · rintro ⟨_, v, h⟩
      refine ⟨v, ?_, h⟩
      have opens := h.opens_of first
      cases v with
      | list => exact list opens
      | object => exact object opens
      | _ => trivial
  | some b =>
    change dropBlanks cs = b.opening :: rest ↔ _
    rw [first, List.cons.injEq]
    cases b <;> simp [Bracket.opening, list, object]

/-- A reader of a scalar, behind which no bracket is open. -/
theorem exact_scalarStart {r : Reader Unit} {mid : List Char} {c : Char} {more : List Char}
    {P : List Char → Prop} (h : Exact r mid fun _ rest => P rest)
    (first : dropBlanks cs = c :: more) (list : c ≠ '[') (object : c ≠ '{')
    (spelled : ∀ rest, P rest ↔ ∃ v : Tree, v.Begins cs rest) :
    Exact (do r; return (none : Option Bracket)) mid (Starts cs) := by
  refine (h.bind fun _ _ _ => exact_pure).congr fun b rest => ?_
  rw [starts_scalar first list object, ← spelled]
  constructor
  · rintro ⟨_, _, hP, rfl, rfl⟩
    exact ⟨rfl, hP⟩
  · rintro ⟨rfl, hP⟩
    exact ⟨(), rest, hP, rfl, rfl⟩

/-- The same for a word that is the only spelling of a scalar. -/
theorem exact_wordStart {u : Tree} {w more : List Char} {c : Char}
    (first : dropBlanks cs = c :: more) (list : c ≠ '[') (object : c ≠ '{')
    (spelled : ∀ rest, u.Begins cs rest ↔ dropBlanks cs = w ++ rest)
    (only : ∀ v : Tree, v.Opens c → v = u) :
    Exact (do word w; return (none : Option Bracket)) (c :: more) (Starts cs) := by
  refine exact_scalarStart (exact_word w) first list object fun rest => ?_
  simp [begins_word first spelled only]

theorem exact_skipStart : Exact skipStart cs (Starts cs) := by
  refine exact_peekToken ?_
  cases first : dropBlanks cs with
  | nil =>
    refine (refuses_fail _).exact fun b rest h => ?_
    cases b with
    | none =>
      obtain ⟨v, _, h⟩ := h
      exact not_begins_of_nil first h
    | some b => unfold Starts at h; rw [first] at h; cases h
  | cons c more =>
    dsimp only [List.head?_cons]
    split
    · next h => cases h
    · next h =>
      cases h
      refine Exact.congr (exact_skip (f := fun _ => pure (some Bracket.list)) exact_pure) ?_
      have first : dropBlanks cs = Bracket.opening .list :: more := first
      exact fun b rest => (starts_bracket first).symm
    · next h =>
      cases h
      refine Exact.congr (exact_skip (f := fun _ => pure (some Bracket.object)) exact_pure) ?_
      have first : dropBlanks cs = Bracket.opening .object :: more := first
      exact fun b rest => (starts_bracket first).symm
    · next h =>
      cases h
      refine exact_scalarStart exact_skipString first (by decide) (by decide) fun rest => ?_
      simp [begins_quote first]
    · next h =>
      cases h
      exact exact_wordStart first (by decide) (by decide) (fun _ => Iff.rfl) fun _ => Opens.eq_null
    · next h =>
      cases h
      exact exact_wordStart first (by decide) (by decide) (fun _ => Iff.rfl) fun _ => Opens.eq_true
    · next h =>
      cases h
      exact exact_wordStart first (by decide) (by decide) (fun _ => Iff.rfl) fun _ => Opens.eq_false
    · next h =>
      cases h
      refine exact_skip (exact_scalarStart exact_skipNumber first (by decide) (by decide)
        fun rest => ?_)
      simp [begins_minus first]
    · next c' list object text null true false minus h =>
      cases h
      by_cases digit : c.isDigit = Bool.true
      · rw [if_pos digit]
        refine exact_scalarStart exact_skipNumber first list object fun rest => ?_
        simp [begins_digit first digit]
      · rw [if_neg digit]
        refine (refuses_failAhead _).exact fun b rest h => ?_
        rw [starts_scalar first list object] at h
        obtain ⟨_, v, h⟩ := h
        have opens := h.opens_of first
        cases v with
        | null => exact null opens
        | boolean b =>
          cases b with
          | false => exact false opens
          | true => exact true opens
        | number => exact opens.elim minus digit
        | text => exact text opens
        | list => exact list opens
        | object => exact object opens

/-! ## Open brackets -/

theorem exact_skipKey : Exact skipKey cs fun _ rest => ∃ key, KeyBegins key cs rest := by
  refine exact_peekToken ?_
  cases first : dropBlanks cs with
  | nil => exact (refuses_fail _).exact (by simp [KeyBegins, first])
  | cons c more =>
    dsimp only [List.head?_cons]
    split
    · next h =>
      cases h
      refine (exact_skipString.bind fun _ _ _ => exact_colon).congr fun _ rest => ?_
      constructor
      · rintro ⟨_, behind, ⟨key, written⟩, colon⟩
        exact ⟨key, more, behind, first, written, colon⟩
      · rintro ⟨key, body, behind, quote, written, colon⟩
        rw [first] at quote
        cases quote
        exact ⟨(), behind, ⟨key, written⟩, colon⟩
    · next c' other h =>
      cases h
      refine (refuses_failAhead _).exact ?_
      rintro _ rest ⟨key, body, behind, quote, _⟩
      rw [first] at quote
      cases quote
      exact other rfl
    · next h => cases h

/-- The open brackets are closed one after the other, the innermost first. -/
def Closes : (fresh : Bool) → List Bracket → (cs rest : List Char) → Prop
  | _, [], cs, rest => rest = cs
  | fresh, bracket :: outer, cs, rest =>
    ∃ mid, bracket.Inside fresh cs mid ∧ Closes false outer mid rest

/-- A member of a bracket, and the end of all brackets. -/
def MemberCloses (bracket : Bracket) (outer : List Bracket) (start rest : List Char) : Prop :=
  ∃ value, bracket.Keyed start value ∧
    ∃ mid, (∃ v : Tree, v.Begins value mid) ∧ Closes false (bracket :: outer) mid rest

theorem closes_iff {fresh : Bool} {bracket : Bracket} {outer : List Bracket} :
    Closes fresh (bracket :: outer) cs rest ↔
      (∃ mid, dropBlanks cs = bracket.closing :: mid ∧ Closes false outer mid rest) ∨
      ∃ start, Follows fresh cs start ∧ MemberCloses bracket outer start rest := by
  constructor
  · rintro ⟨mid, h, hc⟩
    rcases Bracket.inside_iff.mp h with h | ⟨start, value, mid', follows, hk, hv, hi⟩
    · exact .inl ⟨mid, h, hc⟩
    · exact .inr ⟨start, follows, value, hk, mid', hv, mid, hi, hc⟩
  · rintro (⟨mid, h, hc⟩ | ⟨start, follows, value, hk, mid', hv, mid, hi, hc⟩)
    · exact ⟨mid, Bracket.inside_iff.mpr (.inl h), hc⟩
    · exact ⟨mid, Bracket.inside_iff.mpr (.inr ⟨start, value, mid', follows, hk, hv, hi⟩), hc⟩

theorem memberCloses_dropBlanks {bracket : Bracket} {outer : List Bracket} :
    MemberCloses bracket outer (dropBlanks cs) rest ↔ MemberCloses bracket outer cs rest := by
  cases bracket with
  | list => simp [MemberCloses, Bracket.Keyed]
  | object => simp [MemberCloses, Bracket.Keyed, keyBegins_dropBlanks]

theorem exact_member {bound : List Char} (bracket : Bracket) (outer : List Bracket)
    (ih : ∀ (cs : List Char) fresh opened, cs.length ≤ bound.length →
      Exact (skipOpened bound fresh opened) cs fun _ => Closes fresh opened cs)
    (enough : cs.length ≤ bound.length + 1) : Exact (do
      match ← skipStart with
      | none => skipOpened bound false (bracket :: outer)
      | some inner => skipOpened bound true (inner :: bracket :: outer)) cs fun _ rest =>
        ∃ mid, (∃ v : Tree, v.Begins cs mid) ∧ Closes false (bracket :: outer) mid rest := by
  refine (exact_skipStart.bind (R := fun b mid _ rest => match b with
    | none => Closes false (bracket :: outer) mid rest
    | some inner => Closes true (inner :: bracket :: outer) mid rest) fun b mid h => ?_).congr
    fun _ rest => ?_
  · cases b with
    | none =>
      obtain ⟨v, _, h⟩ := h
      have := h.behind.length_lt
      exact ih _ _ _ (by omega)
    | some inner =>
      have := (behind_of_dropBlanks h).length_lt
      exact ih _ _ _ (by omega)
  · simp only [begins_iff]
    constructor
    · rintro ⟨_ | inner, mid, h, hc⟩
      · exact ⟨mid, .inl h, hc⟩
      · obtain ⟨mid', hi, hc⟩ := hc
        exact ⟨mid', .inr ⟨inner, mid, h, hi⟩, hc⟩
    · rintro ⟨mid, h | ⟨inner, inside, h, hi⟩, hc⟩
      · exact ⟨none, mid, h, hc⟩
      · exact ⟨some inner, inside, h, mid, hi, hc⟩

/-- What comes behind the key, if the bracket asks for one. -/
theorem exact_keyed {bracket : Bracket} {r : Reader Unit} {R : List Char → List Char → Prop}
    (h : ∀ value, bracket.Keyed cs value → Exact r value fun _ rest => R value rest) :
    Exact (if bracket = .object then do skipKey; r else r) cs fun _ rest =>
      ∃ value, bracket.Keyed cs value ∧ R value rest := by
  cases bracket with
  | list => exact (h cs rfl).congr (by simp [Bracket.Keyed])
  | object =>
    refine (exact_skipKey.bind fun _ value hk => h value hk).congr fun _ rest => ?_
    constructor
    · rintro ⟨_, value, hk, hR⟩
      exact ⟨value, hk, hR⟩
    · rintro ⟨value, hk, hR⟩
      exact ⟨(), value, hk, hR⟩

theorem length_of_keyed {bracket : Bracket} {value : List Char} (h : bracket.Keyed cs value) :
    value.length ≤ cs.length := by
  cases bracket with
  | list => exact Nat.le_of_eq (congrArg List.length h)
  | object =>
    obtain ⟨key, h⟩ := h
    exact (behind_of_keyBegins h).suffix.length_le

theorem not_closes_of_nil {fresh : Bool} {bracket : Bracket} {outer : List Bracket}
    (h : dropBlanks cs = []) : ¬ Closes fresh (bracket :: outer) cs rest := by
  rw [closes_iff, h]
  rintro (⟨_, h', _⟩ | ⟨start, follows, value, hk, mid, ⟨v, hv⟩, _⟩)
  · cases h'
  cases fresh with
  | false => exact nomatch h.symm.trans follows
  | true =>
    cases follows
    cases bracket with
    | list =>
      cases hk
      exact not_begins_of_nil h hv
    | object =>
      obtain ⟨key, body, behind, quote, _⟩ := hk
      exact nomatch h.symm.trans quote

/-- A member does not begin like the end of its bracket. -/
theorem not_memberCloses_of_closing {bracket : Bracket} {outer : List Bracket}
    {more : List Char} (first : dropBlanks cs = bracket.closing :: more) :
    ¬ MemberCloses bracket outer cs rest := by
  rintro ⟨value, hk, mid, ⟨v, hv⟩, _⟩
  cases bracket with
  | list =>
    cases hk
    exact not_opens_closing .list (hv.opens_of first)
  | object =>
    obtain ⟨key, body, behind, quote, _⟩ := hk
    rw [first] at quote
    cases quote

theorem closes_of_closing {fresh : Bool} {bracket : Bracket} {outer : List Bracket}
    {more : List Char} (first : dropBlanks cs = bracket.closing :: more) :
    Closes fresh (bracket :: outer) cs rest ↔ Closes false outer more rest := by
  rw [closes_iff]
  constructor
  · rintro (⟨mid, h, hc⟩ | ⟨start, follows, h⟩)
    · rw [first] at h
      cases h
      exact hc
    · cases fresh with
      | true => cases follows; exact (not_memberCloses_of_closing first h).elim
      | false =>
        unfold Follows at follows
        rw [first] at follows
        cases bracket <;> cases follows
  · intro hc
    exact .inl ⟨more, first, hc⟩

theorem closes_of_not_closing {fresh : Bool} {bracket : Bracket} {outer : List Bracket} {c : Char}
    {more : List Char} (first : dropBlanks cs = c :: more) (closing : c ≠ bracket.closing) :
    Closes fresh (bracket :: outer) cs rest ↔
      ∃ start, Follows fresh cs start ∧ MemberCloses bracket outer start rest := by
  rw [closes_iff, first, or_iff_right]
  rintro ⟨mid, h, _⟩
  cases h
  exact closing rfl

theorem exact_skipOpened {bound : List Char} {fresh : Bool} {opened : List Bracket}
    (enough : cs.length ≤ bound.length) :
    Exact (skipOpened bound fresh opened) cs fun _ => Closes fresh opened cs := by
  induction bound generalizing cs fresh opened with
  | nil =>
    cases List.length_eq_zero_iff.mp (Nat.le_zero.mp enough)
    cases opened with
    | nil => exact exact_pure.congr (by simp [Closes])
    | cons bracket outer => exact (refuses_fail _).exact fun _ rest => not_closes_of_nil rfl
  | cons _ bound ih =>
    cases opened with
    | nil => exact exact_pure.congr (by simp [Closes])
    | cons bracket outer =>
      have member (cs : List Char) (enough : cs.length ≤ bound.length + 1) :=
        exact_keyed fun value (hk : bracket.Keyed cs value) =>
          exact_member bracket outer (fun _ _ _ => ih) ((length_of_keyed hk).trans enough)
      refine exact_peekToken ?_
      cases first : dropBlanks cs with
      | nil => exact (refuses_fail _).exact fun _ rest => not_closes_of_nil first
      | cons c more =>
        have shorter := (behind_of_dropBlanks first).length_lt
        have size : (c :: more).length ≤ cs.length := first ▸ length_dropBlanks_le cs
        rw [List.length_cons] at enough
        dsimp only [List.head?_cons]
        by_cases closing : c = bracket.closing
        · rw [if_pos closing]
          subst closing
          exact (exact_skip (ih (by omega))).congr fun _ rest => (closes_of_closing first).symm
        · rw [if_neg closing]
          cases fresh with
          | true =>
            refine (member (c :: more) (by omega)).congr fun _ rest => ?_
            rw [closes_of_not_closing first closing, ← first]
            simp only [Follows, if_true, exists_eq_left]
            exact memberCloses_dropBlanks
          | false =>
            simp only [Bool.not_false, if_true]
            by_cases comma : c = ','
            · rw [if_pos comma]
              refine (exact_skip (member more (by omega))).congr fun _ rest => ?_
              rw [closes_of_not_closing first closing]
              simp only [Follows, Bool.false_eq_true, if_false, first, comma, List.cons.injEq,
                true_and, exists_eq_left']
              rfl
            · rw [if_neg comma]
              refine (refuses_failAhead _).bind.exact fun _ rest h => ?_
              rw [closes_of_not_closing first closing] at h
              obtain ⟨start, follows, _⟩ := h
              exact comma (List.cons.inj (first.symm.trans follows)).1

/-- Passing over a value takes the spelling of some value, and every value can be passed over. -/
theorem exact_skipValue : Exact skipValue cs fun _ rest => ∃ v : Tree, v.Begins cs rest := by
  refine (exact_skipStart.bind (R := fun b mid _ rest => match b with
    | none => rest = mid
    | some bracket => bracket.Inside true mid rest) fun b mid h => ?_).congr fun _ rest => ?_
  · cases b with
    | none => exact exact_pure.congr (by simp)
    | some bracket =>
      refine exact_get fun _ => ?_
      exact (exact_skipOpened le_rfl).congr fun _ rest => by simp [Closes]
  · rw [begins_iff]
    constructor
    · rintro ⟨_ | bracket, mid, h, hc⟩
      · cases hc
        exact .inl h
      · exact .inr ⟨bracket, mid, h, hc⟩
    · rintro (h | ⟨bracket, inside, h, hi⟩)
      · exact ⟨none, rest, h, rfl⟩
      · exact ⟨some bracket, inside, h, hi⟩

end Reader
end GrammarArtifact.Json
