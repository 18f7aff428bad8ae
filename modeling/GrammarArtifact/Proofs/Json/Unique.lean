import GrammarArtifact.Proofs.Json.Skip

/-! # A text spells one value

The grammar is unambiguous: of one text only one value can be the beginning, and the
rest behind it is fixed too. What follows a closing bracket is of no influence, so a
bracketed value stays where it is when the text is continued. -/

namespace GrammarArtifact.Json
variable {cs rest rest' : List Char}

/-- What a reader gives on a text is determined. -/
theorem Reader.Exact.functional {α : Type} {r : Reader α} {P : α → List Char → Prop} {a b : α}
    (h : Exact r cs P) (ha : P a rest) (hb : P b rest') : a = b ∧ rest = rest' := by
  obtain ⟨m, hm⟩ := (h 0 a rest).mpr ha
  obtain ⟨m', hm'⟩ := (h 0 b rest').mpr hb
  cases hm.symm.trans hm'
  exact ⟨rfl, rfl⟩

theorem Written.unique {marks marks' : List Mark} (h : Written marks cs rest)
    (h' : Written marks' cs rest') : marks = marks' ∧ rest = rest' := by
  induction h generalizing marks' with
  | closed =>
    obtain ⟨hm, hr⟩ := written_quote.mp h'
    exact ⟨hm.symm, hr.symm⟩
  | plain visible quote backslash h ih =>
    obtain ⟨_, more, rfl, behind⟩ := (written_plain quote backslash).mp h'
    obtain ⟨hm, hr⟩ := ih behind
    exact ⟨by rw [hm], hr⟩
  | @short letter marks cs rest known h ih =>
    have unicode : letter ≠ 'u' := by
      rintro rfl
      cases known
    obtain ⟨_, more, rfl, behind⟩ := (written_short unicode).mp h'
    obtain ⟨hm, hr⟩ := ih behind
    exact ⟨by rw [hm], hr⟩
  | @code digits marks cs mid rest known taken h ih =>
    obtain ⟨digits', mid', more, taken', known', rfl, behind⟩ := written_code.mp h'
    obtain ⟨n, hn⟩ := Option.isSome_iff_exists.mp known
    obtain ⟨n', hn'⟩ := Option.isSome_iff_exists.mp known'
    have size : digits.length = digits'.length :=
      (Reader.length_of_hexCode hn).trans (Reader.length_of_hexCode hn').symm
    obtain ⟨rfl, rfl⟩ := List.append_inj (taken.symm.trans taken') size
    obtain ⟨hm, hr⟩ := ih behind
    exact ⟨by rw [hm], hr⟩

theorem KeyBegins.unique {key key' : List Mark} (h : KeyBegins key cs rest)
    (h' : KeyBegins key' cs rest') : key = key' ∧ rest = rest' := by
  obtain ⟨body, behind, quote, written, colon⟩ := h
  obtain ⟨body', behind', quote', written', colon'⟩ := h'
  cases quote.symm.trans quote'
  obtain ⟨rfl, rfl⟩ := written.unique written'
  cases colon.symm.trans colon'
  exact ⟨rfl, rfl⟩

theorem Follows.unique {first : Bool} {start start' : List Char} (h : Follows first cs start)
    (h' : Follows first cs start') : start = start' := by
  cases first with
  | true => exact Eq.trans h (Eq.symm h')
  | false => exact (List.cons.inj (h.symm.trans h')).2

namespace Tree
variable {v w : Tree}

/-- What is left behind a value does not depend on the value. -/
theorem Begins.rest_unique (h : v.Begins cs rest) (h' : w.Begins cs rest') : rest = rest' :=
  (Reader.exact_skipValue.functional (a := ()) (b := ()) ⟨v, h⟩ ⟨w, h'⟩).2

theorem not_items_of_closing {vs : List Tree} {first : Bool} {u : Tree}
    (h : dropBlanks cs = ']' :: rest) : ¬ ItemsBegin (u :: vs) first cs rest' := by
  rintro ⟨start, mid, follows, hu, _⟩
  cases first with
  | true =>
    cases follows
    exact not_opens_closing .list (hu.opens_of h)
  | false => cases h.symm.trans follows

theorem not_members_of_closing {ms : List (List Mark × Tree)} {first : Bool}
    {m : List Mark × Tree} (h : dropBlanks cs = '}' :: rest) :
    ¬ MembersBegin (m :: ms) first cs rest' := by
  rintro ⟨start, value, mid, follows, ⟨body, behind, quote, _⟩, _⟩
  cases first with
  | true =>
    cases follows
    cases h.symm.trans quote
  | false => cases h.symm.trans follows

theorem items_unique {vs ws : List Tree} {first : Bool}
    (ih : ∀ v ∈ vs, ∀ (w : Tree) cs rest rest', v.Begins cs rest → w.Begins cs rest' → v = w)
    (h : ItemsBegin vs first cs rest) (h' : ItemsBegin ws first cs rest') : vs = ws := by
  induction vs generalizing ws first cs with
  | nil =>
    cases ws with
    | nil => rfl
    | cons w ws => exact (not_items_of_closing h h').elim
  | cons v vs ihs =>
    cases ws with
    | nil => exact (not_items_of_closing h' h).elim
    | cons w ws =>
      obtain ⟨start, mid, follows, hv, hvs⟩ := h
      obtain ⟨start', mid', follows', hw, hws⟩ := h'
      cases follows.unique follows'
      cases hv.rest_unique hw
      rw [ih v (by simp) w _ _ _ hv hw, ihs (fun v hv => ih v (by simp [hv])) hvs hws]

theorem members_unique {ms ns : List (List Mark × Tree)} {first : Bool}
    (ih : ∀ m ∈ ms, ∀ (w : Tree) cs rest rest', m.2.Begins cs rest → w.Begins cs rest' → m.2 = w)
    (h : MembersBegin ms first cs rest) (h' : MembersBegin ns first cs rest') : ms = ns := by
  induction ms generalizing ns first cs with
  | nil =>
    cases ns with
    | nil => rfl
    | cons n ns => exact (not_members_of_closing h h').elim
  | cons m ms ihs =>
    cases ns with
    | nil => exact (not_members_of_closing h' h).elim
    | cons n ns =>
      obtain ⟨key, v⟩ := m
      obtain ⟨key', w⟩ := n
      obtain ⟨start, value, mid, follows, hk, hv, hms⟩ := h
      obtain ⟨start', value', mid', follows', hk', hw, hns⟩ := h'
      cases follows.unique follows'
      obtain ⟨rfl, rfl⟩ := hk.unique hk'
      cases hv.rest_unique hw
      have same : v = w := ih (key, v) (by simp) w _ _ _ hv hw
      rw [same, ihs (fun m hm => ih m (by simp [hm])) hms hns]

/-- **A text begins with one value.** -/
theorem Begins.unique (h : v.Begins cs rest) (h' : w.Begins cs rest') : v = w := by
  induction v using nested_induction generalizing w cs rest rest' with
  | null => exact (h'.opens_of (c := 'n') h).eq_null.symm
  | boolean b =>
    cases b with
    | true => exact (h'.opens_of (c := 't') h).eq_true.symm
    | false => exact (h'.opens_of (c := 'f') h).eq_false.symm
  | number numeral =>
    cases h.rest_unique h'
    obtain ⟨c, more, first, opens⟩ := h.opens
    obtain ⟨numeral', rfl⟩ := (h'.opens_of first).eq_number opens
    rw [List.append_cancel_right (h.1.symm.trans h'.1)]
  | text marks =>
    obtain ⟨body, quote, written⟩ := h
    obtain ⟨marks', rfl, written'⟩ := (begins_quote quote).mp h'
    rw [(written.unique written').1]
  | list items ih =>
    obtain ⟨inside, bracket, h⟩ := h
    obtain ⟨items', rfl, hi⟩ := (begins_bracket bracket).mp h'
    rw [items_unique (fun v hv w _ _ _ => ih v hv) h hi]
  | object members ih =>
    obtain ⟨inside, brace, h⟩ := h
    obtain ⟨members', rfl, hm⟩ := (begins_brace brace).mp h'
    rw [members_unique (fun m hm w _ _ _ => ih m hm) h hm]

theorem Spelled.unique {text : String} (h : v.Spelled text) (h' : w.Spelled text) : v = w := by
  obtain ⟨rest, h, _⟩ := h
  obtain ⟨rest', h', _⟩ := h'
  exact h.unique h'

end Tree

/-! ## Continued texts -/

variable {s : List Char}

theorem dropBlanks_append {c : Char} {more : List Char} (h : dropBlanks cs = c :: more) :
    dropBlanks (cs ++ s) = c :: (more ++ s) := by
  unfold dropBlanks at h ⊢
  rw [List.dropWhile_append, h]
  simp

theorem Written.append {marks : List Mark} (h : Written marks cs rest) :
    Written marks (cs ++ s) (rest ++ s) := by
  induction h with
  | closed => exact .closed
  | plain visible quote backslash _ ih => exact .plain visible quote backslash ih
  | short known _ ih => exact .short known ih
  | code known taken _ ih =>
    subst taken
    exact .code known (List.append_assoc _ _ _) ih

theorem KeyBegins.append {key : List Mark} (h : KeyBegins key cs rest) :
    KeyBegins key (cs ++ s) (rest ++ s) := by
  obtain ⟨body, behind, quote, written, colon⟩ := h
  exact ⟨_, _, dropBlanks_append quote, written.append, dropBlanks_append colon⟩

theorem Follows.append {first : Bool} {start : List Char} (h : Follows first cs start) :
    Follows first (cs ++ s) (start ++ s) := by
  cases first with
  | true => exact congrArg (· ++ s) h
  | false => exact dropBlanks_append h

/-! A numeral is as long as it can be, so a text that ends with it may not be continued. -/

theorem NoDigit.append (h : NoDigit rest) (some : rest ≠ []) : NoDigit (rest ++ s) := by
  intro c hc
  rw [List.head?_append_of_ne_nil _ some] at hc
  exact h c hc

theorem IsDigits.append {ds : List Char} (h : IsDigits ds rest) (some : rest ≠ []) :
    IsDigits ds (rest ++ s) := by
  obtain ⟨any, digits, stop⟩ := h
  exact ⟨any, digits, stop.append some⟩

theorem IsWhole.append {ds : List Char} (h : IsWhole ds rest) (some : rest ≠ []) :
    IsWhole ds (rest ++ s) := by
  obtain ⟨digits, zero⟩ := h
  exact ⟨digits.append some, zero⟩

theorem IsFraction.append {part : List Char} (h : IsFraction part rest) (some : rest ≠ []) :
    IsFraction part (rest ++ s) := by
  rcases h with ⟨rfl, point⟩ | ⟨ds, rfl, digits⟩
  · exact .inl ⟨rfl, by rwa [List.head?_append_of_ne_nil _ some]⟩
  · exact .inr ⟨ds, rfl, digits.append some⟩

theorem IsExponent.append {part : List Char} (h : IsExponent part rest) (some : rest ≠ []) :
    IsExponent part (rest ++ s) := by
  rcases h with ⟨rfl, mark⟩ | ⟨mark, sign, ds, rfl, hm, hs, digits⟩
  · exact .inl ⟨rfl, by rwa [List.head?_append_of_ne_nil _ some]⟩
  · exact .inr ⟨mark, sign, ds, rfl, hm, hs, digits.append some⟩

theorem IsUnsigned.append {numeral : List Char} (h : IsUnsigned numeral rest) (some : rest ≠ []) :
    IsUnsigned numeral (rest ++ s) := by
  obtain ⟨whole, fraction, exponent, rfl, hw, hf, he⟩ := h
  have some' : exponent ++ rest ≠ [] := List.append_ne_nil_of_right_ne_nil _ some
  have hf := hf.append (s := s) some'
  have hw := hw.append (s := s) (List.append_ne_nil_of_right_ne_nil fraction some')
  simp only [List.append_assoc] at hf hw
  exact ⟨whole, fraction, exponent, rfl, hw, hf, he.append some⟩

theorem IsNumeral.append {numeral : List Char} (h : IsNumeral numeral rest) (some : rest ≠ []) :
    IsNumeral numeral (rest ++ s) := by
  rcases h with h | ⟨size, rfl, h⟩
  · exact .inl (h.append some)
  · exact .inr ⟨size, rfl, h.append some⟩

namespace Tree

theorem ne_nil_of_items {vs : List Tree} {first : Bool} (h : ItemsBegin vs first cs rest) :
    cs ≠ [] := by
  rintro rfl
  exact absurd (behind_of_items (fun _ _ _ _ => Begins.behind) h).length_lt (Nat.not_lt_zero _)

theorem ne_nil_of_members {ms : List (List Mark × Tree)} {first : Bool}
    (h : MembersBegin ms first cs rest) : cs ≠ [] := by
  rintro rfl
  exact absurd (behind_of_members (fun _ _ _ _ => Begins.behind) h).length_lt (Nat.not_lt_zero _)

theorem items_append {vs : List Tree} {first : Bool}
    (ih : ∀ v ∈ vs, ∀ cs rest, v.Begins cs rest → rest ≠ [] → v.Begins (cs ++ s) (rest ++ s))
    (h : ItemsBegin vs first cs rest) : ItemsBegin vs first (cs ++ s) (rest ++ s) := by
  induction vs generalizing first cs with
  | nil => exact dropBlanks_append h
  | cons v vs ihs =>
    obtain ⟨start, mid, follows, hv, hvs⟩ := h
    exact ⟨_, _, follows.append, ih v (by simp) _ _ hv (ne_nil_of_items hvs),
      ihs (fun v hv => ih v (by simp [hv])) hvs⟩

theorem members_append {ms : List (List Mark × Tree)} {first : Bool}
    (ih : ∀ m ∈ ms, ∀ cs rest, m.2.Begins cs rest → rest ≠ [] →
      m.2.Begins (cs ++ s) (rest ++ s))
    (h : MembersBegin ms first cs rest) : MembersBegin ms first (cs ++ s) (rest ++ s) := by
  induction ms generalizing first cs with
  | nil => exact dropBlanks_append h
  | cons m ms ihs =>
    obtain ⟨key, v⟩ := m
    obtain ⟨start, value, mid, follows, hk, hv, hms⟩ := h
    exact ⟨_, _, _, follows.append, hk.append,
      ih (key, v) (by simp) _ _ hv (ne_nil_of_members hms),
      ihs (fun m hm => ih m (by simp [hm])) hms⟩

theorem dropBlanks_append_of_word {c : Char} {w : List Char}
    (h : dropBlanks cs = (c :: w) ++ rest) : dropBlanks (cs ++ s) = (c :: w) ++ (rest ++ s) :=
  (dropBlanks_append h).trans (congrArg (c :: ·) (List.append_assoc w rest s))

/-- A text may be continued behind a value, unless a scalar is the end of it. -/
theorem Begins.append {v : Tree} (h : v.Begins cs rest) (inner : v.IsScalar → rest ≠ []) :
    v.Begins (cs ++ s) (rest ++ s) := by
  induction v using nested_induction generalizing cs rest with
  | null => exact dropBlanks_append_of_word h
  | boolean b =>
    cases b with
    | true => exact dropBlanks_append_of_word h
    | false => exact dropBlanks_append_of_word h
  | number numeral =>
    obtain ⟨c, more, first, _⟩ := h.opens
    obtain ⟨spelled, hn⟩ := h
    refine ⟨?_, hn.append (inner trivial)⟩
    rw [dropBlanks_append first, ← List.cons_append, ← first, spelled, List.append_assoc]
  | text marks =>
    obtain ⟨body, quote, written⟩ := h
    exact ⟨_, dropBlanks_append quote, written.append⟩
  | list items ih =>
    obtain ⟨inside, bracket, h⟩ := h
    exact ⟨_, dropBlanks_append bracket,
      items_append (fun v hv _ _ hb some => ih v hv hb fun _ => some) h⟩
  | object members ih =>
    obtain ⟨inside, bracket, h⟩ := h
    exact ⟨_, dropBlanks_append bracket,
      members_append (fun m hm _ _ hb some => ih m hm hb fun _ => some) h⟩

/-- Nothing is left behind a value at the end of a text that does not end with a blank. -/
theorem Spelled.begins {v : Tree} {text : String} {c : Char} (h : v.Spelled text)
    (last : text.toList.getLast? = some c) (solid : Reader.isBlank c = false) :
    v.Begins text.toList [] := by
  obtain ⟨rest, hv, blank⟩ := h
  suffices rest = [] by rwa [this] at hv
  by_contra some
  obtain ⟨w, _, taken⟩ := hv.behind
  have within : c ∈ rest := by
    rw [taken, List.getLast?_append_of_ne_nil _ some] at last
    exact List.mem_of_getLast? last
  rw [dropBlanks_eq_nil.mp blank c within] at solid
  cases solid

/-- A text that ends with a bracket is not continued by another text that spells a value. -/
theorem Spelled.eq_empty_of_append {v w : Tree} {start more : String} {c : Char}
    (h : v.Spelled (start ++ more)) (hw : w.Spelled start) (bracketed : ¬ w.IsScalar)
    (last : (start ++ more).toList.getLast? = some c) (solid : Reader.isBlank c = false) :
    more = "" := by
  obtain ⟨rest, hw, _⟩ := hw
  have whole : v.Begins (start.toList ++ more.toList) [] := by
    rw [← String.toList_append]
    exact h.begins last solid
  have none : [] = rest ++ more.toList :=
    whole.rest_unique (hw.append fun scalar => (bracketed scalar).elim)
  exact String.toList_eq_nil_iff.mp (List.append_eq_nil_iff.mp none.symm).2

/-- A text that ends with a bracket is continued by blanks only. -/
theorem Spelled.isBlank_of_append {v w : Tree} {text more : String} {c : Char}
    (h : v.Spelled text) (bracketed : ¬ v.IsScalar) (last : text.toList.getLast? = some c)
    (solid : Reader.isBlank c = false) (hw : w.Spelled (text ++ more)) :
    ∀ c ∈ more.toList, Reader.isBlank c = true := by
  obtain ⟨rest, hw, blank⟩ := hw
  rw [String.toList_append] at hw
  have left : rest = more.toList := hw.rest_unique
    ((h.begins last solid).append fun scalar => (bracketed scalar).elim)
  rw [← left]
  exact dropBlanks_eq_nil.mp blank

end Tree
end GrammarArtifact.Json
