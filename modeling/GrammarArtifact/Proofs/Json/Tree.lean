import GrammarArtifact.Proofs.Json.Exact

/-! # Values and their spellings

A JSON text spells a value: between the parts of the value may stand blanks, and a
string may write a character in several ways. A `Tree` is a value with its strings and
numerals as they are written, and `Tree.Begins` is the grammar of JSON: a text begins
with a spelling of the value, behind which a rest is left. Nothing here knows what the
value is for. -/

namespace GrammarArtifact.Json

/-! ## Strings -/

/-- A character as a string writes it: as it is, with a letter behind a backslash, or with the
digits of a `\u` escape. -/
inductive Mark where
  | plain (c : Char)
  | short (letter : Char)
  | code (digits : List Char)

namespace Mark

def isHigh (n : Nat) : Bool := 0xD800 ≤ n && n ≤ 0xDBFF

def isLow (n : Nat) : Bool := 0xDC00 ≤ n && n ≤ 0xDFFF

def pair (high low : Nat) : Char :=
  Char.ofNat (0x10000 + (high - 0xD800) * 0x400 + (low - 0xDC00))

/-- The characters that marks stand for; none if a half of a surrogate pair stands alone. -/
def meaning? : List Mark → Option (List Char)
  | [] => some []
  | plain c :: rest => (meaning? rest).map (c :: ·)
  | short letter :: rest =>
    (Reader.shortEscape? letter).bind fun c => (meaning? rest).map (c :: ·)
  | code digits :: rest =>
    (Reader.hexCode? digits).bind fun high =>
      if isLow high then none
      else if isHigh high then
        match rest with
        | code digits' :: rest' =>
          (Reader.hexCode? digits').bind fun low =>
            if isLow low then (meaning? rest').map (pair high low :: ·) else none
        | _ => none
      else (meaning? rest).map (Char.ofNat high :: ·)

def text? (marks : List Mark) : Option String := (meaning? marks).map String.ofList

end Mark

/-- Behind an opening quote the text writes these marks up to the closing quote, and the rest comes
behind it. -/
inductive Written : List Mark → (cs rest : List Char) → Prop where
  | closed {rest : List Char} : Written [] ('"' :: rest) rest
  | plain {c : Char} {marks : List Mark} {cs rest : List Char} (visible : 0x20 ≤ c.toNat)
      (quote : c ≠ '"') (backslash : c ≠ '\\') :
      Written marks cs rest → Written (.plain c :: marks) (c :: cs) rest
  | short {letter : Char} {marks : List Mark} {cs rest : List Char}
      (known : (Reader.shortEscape? letter).isSome) :
      Written marks cs rest → Written (.short letter :: marks) ('\\' :: letter :: cs) rest
  | code {digits : List Char} {marks : List Mark} {cs mid rest : List Char}
      (known : (Reader.hexCode? digits).isSome) (taken : cs = digits ++ mid) :
      Written marks mid rest → Written (.code digits :: marks) ('\\' :: 'u' :: cs) rest

/-! ## Numerals

Each part of a numeral is as long as it can be: the rest does not go on with it. -/

def NoDigit (rest : List Char) : Prop := ∀ c, rest.head? = some c → c.isDigit = false

def IsDigits (ds rest : List Char) : Prop :=
  ds ≠ [] ∧ (∀ c ∈ ds, c.isDigit = true) ∧ NoDigit rest

/-- The digits before the point; a zero in front stands alone. -/
def IsWhole (ds rest : List Char) : Prop :=
  IsDigits ds rest ∧ (ds.head? = some '0' → ds = ['0'])

def IsFraction (part rest : List Char) : Prop :=
  (part = [] ∧ rest.head? ≠ some '.') ∨ ∃ ds, part = '.' :: ds ∧ IsDigits ds rest

/-- The sign of an exponent, or nothing. -/
def signs : List (List Char) := [[], ['+'], ['-']]

def IsExponent (part rest : List Char) : Prop :=
  (part = [] ∧ rest.head? ≠ some 'e' ∧ rest.head? ≠ some 'E') ∨
    ∃ mark sign ds, part = mark :: (sign ++ ds) ∧ (mark = 'e' ∨ mark = 'E') ∧ sign ∈ signs ∧
      IsDigits ds rest

def IsUnsigned (numeral rest : List Char) : Prop :=
  ∃ whole fraction exponent, numeral = whole ++ (fraction ++ exponent) ∧
    IsWhole whole (fraction ++ (exponent ++ rest)) ∧ IsFraction fraction (exponent ++ rest) ∧
    IsExponent exponent rest

def IsNumeral (numeral rest : List Char) : Prop :=
  IsUnsigned numeral rest ∨ ∃ size, numeral = '-' :: size ∧ IsUnsigned size rest

/-! ## Values -/

/-- A value, with its strings and numerals as they are written. -/
inductive Tree where
  | null
  | boolean (b : Bool)
  | number (numeral : List Char)
  | text (marks : List Mark)
  | list (items : List Tree)
  | object (members : List (List Mark × Tree))

/-- Another part follows: the first at once, and each other one behind a comma. -/
def Follows (first : Bool) (cs start : List Char) : Prop :=
  if first then start = cs else dropBlanks cs = ',' :: start

/-- A key with its colon. -/
def KeyBegins (key : List Mark) (cs rest : List Char) : Prop :=
  ∃ body behind, dropBlanks cs = '"' :: body ∧ Written key body behind ∧
    dropBlanks behind = ':' :: rest

namespace Tree

mutual

/-- The text begins with a spelling of the value, and the rest comes behind it. -/
def Begins : Tree → (cs rest : List Char) → Prop
  | null, cs, rest => dropBlanks cs = "null".toList ++ rest
  | boolean true, cs, rest => dropBlanks cs = "true".toList ++ rest
  | boolean false, cs, rest => dropBlanks cs = "false".toList ++ rest
  | number numeral, cs, rest => dropBlanks cs = numeral ++ rest ∧ IsNumeral numeral rest
  | text marks, cs, rest => ∃ body, dropBlanks cs = '"' :: body ∧ Written marks body rest
  | list items, cs, rest => ∃ inside, dropBlanks cs = '[' :: inside ∧
    ItemsBegin items true inside rest
  | object members, cs, rest =>
    ∃ inside, dropBlanks cs = '{' :: inside ∧ MembersBegin members true inside rest

/-- The text begins with the items that are left in a list, and the rest comes behind the closing
bracket. -/
def ItemsBegin : List Tree → (first : Bool) → (cs rest : List Char) → Prop
  | [], _, cs, rest => dropBlanks cs = ']' :: rest
  | v :: vs, first, cs, rest =>
    ∃ start mid, Follows first cs start ∧ Begins v start mid ∧ ItemsBegin vs false mid rest

/-- The text begins with the members that are left in an object, and the rest comes behind the
closing bracket. -/
def MembersBegin : List (List Mark × Tree) → (first : Bool) → (cs rest : List Char) → Prop
  | [], _, cs, rest => dropBlanks cs = '}' :: rest
  | (key, v) :: ms, first, cs, rest =>
    ∃ start value mid, Follows first cs start ∧ KeyBegins key start value ∧ Begins v value mid ∧
      MembersBegin ms false mid rest

end

def Spelled (v : Tree) (text : String) : Prop :=
  ∃ rest, v.Begins text.toList rest ∧ dropBlanks rest = []

/-- Induction along the items and the members of a value. -/
theorem nested_induction {motive : Tree → Prop} (null : motive null)
    (boolean : ∀ b, motive (boolean b)) (number : ∀ numeral, motive (number numeral))
    (text : ∀ marks, motive (text marks))
    (list : ∀ items, (∀ v ∈ items, motive v) → motive (list items))
    (object : ∀ members, (∀ m ∈ members, motive m.2) → motive (object members))
    (v : Tree) : motive v := by
  refine Tree.rec (motive_1 := motive) (motive_2 := fun vs => ∀ v ∈ vs, motive v)
    (motive_3 := fun ms => ∀ m ∈ ms, motive m.2) (motive_4 := fun m => motive m.2)
    null boolean number text list object ?_ ?_ ?_ ?_ ?_ v
  · intro v h; cases h
  · intro v vs hv hvs w h
    rcases List.mem_cons.mp h with rfl | h
    · exact hv
    · exact hvs w h
  · intro m h; cases h
  · intro m ms hm hms m' h
    rcases List.mem_cons.mp h with rfl | h
    · exact hm
    · exact hms m' h
  · intro key v hv; exact hv

/-! ## First characters -/

/-- The characters with which spellings of a value begin. -/
def Opens : Tree → Char → Prop
  | null, c => c = 'n'
  | boolean true, c => c = 't'
  | boolean false, c => c = 'f'
  | number _, c => c = '-' ∨ c.isDigit = true
  | text _, c => c = '"'
  | list _, c => c = '['
  | object _, c => c = '{'

variable {v : Tree} {cs rest : List Char}

theorem opens_of_isUnsigned {numeral : List Char} (h : IsUnsigned numeral rest) :
    ∃ c more, numeral = c :: more ∧ c.isDigit = true := by
  obtain ⟨whole, fraction, exponent, rfl, ⟨⟨some, digits, _⟩, _⟩, _⟩ := h
  cases whole with
  | nil => exact absurd rfl some
  | cons d ds => exact ⟨d, _, rfl, digits d (by simp)⟩

theorem Begins.opens (h : v.Begins cs rest) : ∃ c more, dropBlanks cs = c :: more ∧ v.Opens c := by
  cases v with
  | null => exact ⟨'n', _, by simpa [Begins] using h, rfl⟩
  | boolean b =>
    cases b with
    | true => exact ⟨'t', _, by simpa [Begins] using h, rfl⟩
    | false => exact ⟨'f', _, by simpa [Begins] using h, rfl⟩
  | number numeral =>
    obtain ⟨h, hn | ⟨size, rfl, _⟩⟩ := h
    · obtain ⟨c, more, rfl, digit⟩ := opens_of_isUnsigned hn
      exact ⟨c, _, h, .inr digit⟩
    · exact ⟨'-', _, h, .inl rfl⟩
  | text marks =>
    obtain ⟨body, h, _⟩ := h
    exact ⟨'"', body, h, rfl⟩
  | list items =>
    obtain ⟨inside, h, _⟩ := h
    exact ⟨'[', inside, h, rfl⟩
  | object members =>
    obtain ⟨inside, h, _⟩ := h
    exact ⟨'{', inside, h, rfl⟩

/-- Where a text begins with a value, its first character tells of which kind. -/
theorem Begins.opens_of (h : v.Begins cs rest) {c : Char} {more : List Char}
    (first : dropBlanks cs = c :: more) : v.Opens c := by
  obtain ⟨c', more', h', opens⟩ := h.opens
  rw [first] at h'
  cases h'
  exact opens

theorem not_begins_of_nil (h : dropBlanks cs = []) : ¬ v.Begins cs rest := by
  intro hv
  obtain ⟨c, more, h', _⟩ := hv.opens
  rw [h] at h'
  cases h'

/-- No value begins like the end of a bracket. -/
theorem not_opens_closing (bracket : Bracket) : ¬ v.Opens bracket.closing := by
  intro h
  cases v with
  | boolean b => cases b <;> cases bracket <;> simp [Opens, Bracket.closing] at h
  | _ => cases bracket <;> simp [Opens, Bracket.closing] at h

/-! The first character leaves one kind of values. -/

theorem Opens.eq_null (h : v.Opens 'n') : v = null := by
  cases v with
  | null => rfl
  | boolean b => cases b <;> simp [Opens] at h
  | _ => simp [Opens] at h

theorem Opens.eq_true (h : v.Opens 't') : v = boolean true := by
  cases v with
  | boolean b => cases b <;> simp [Opens] at h ⊢
  | _ => simp [Opens] at h

theorem Opens.eq_false (h : v.Opens 'f') : v = boolean false := by
  cases v with
  | boolean b => cases b <;> simp [Opens] at h ⊢
  | _ => simp [Opens] at h

theorem Opens.eq_number {c : Char} (h : v.Opens c) (hc : c = '-' ∨ c.isDigit = true) :
    ∃ numeral, v = number numeral := by
  cases v with
  | number numeral => exact ⟨numeral, rfl⟩
  | boolean b => cases b <;> cases h <;> simp at hc
  | _ => cases h; simp at hc

theorem Opens.eq_text (h : v.Opens '"') : ∃ marks, v = text marks := by
  cases v with
  | text marks => exact ⟨marks, rfl⟩
  | boolean b => cases b <;> simp [Opens] at h
  | _ => simp [Opens] at h

theorem Opens.eq_list (h : v.Opens '[') : ∃ items, v = list items := by
  cases v with
  | list items => exact ⟨items, rfl⟩
  | boolean b => cases b <;> simp [Opens] at h
  | _ => simp [Opens] at h

theorem Opens.eq_object (h : v.Opens '{') : ∃ members, v = object members := by
  cases v with
  | object members => exact ⟨members, rfl⟩
  | boolean b => cases b <;> simp [Opens] at h
  | _ => simp [Opens] at h

/-! So it leaves one way to read on. -/

/-- A letter leaves the word that begins with it. -/
theorem begins_word {u : Tree} {w more : List Char} {c : Char} (first : dropBlanks cs = c :: more)
    (spelled : ∀ rest, u.Begins cs rest ↔ dropBlanks cs = w ++ rest)
    (only : ∀ v : Tree, v.Opens c → v = u) :
    v.Begins cs rest ↔ v = u ∧ c :: more = w ++ rest := by
  rw [← first, ← spelled]
  constructor
  · intro h
    cases only v (h.opens_of first)
    exact ⟨rfl, h⟩
  · rintro ⟨rfl, h⟩
    exact h

/-- A quote leaves a string. -/
theorem begins_quote {body : List Char} (first : dropBlanks cs = '"' :: body) :
    v.Begins cs rest ↔ ∃ marks, v = text marks ∧ Written marks body rest := by
  constructor
  · intro h
    obtain ⟨marks, rfl⟩ := (h.opens_of first).eq_text
    obtain ⟨_, quote, written⟩ := h
    cases first.symm.trans quote
    exact ⟨marks, rfl, written⟩
  · rintro ⟨marks, rfl, written⟩
    exact ⟨body, first, written⟩

/-- An opening bracket leaves a list. -/
theorem begins_bracket {inside : List Char} (first : dropBlanks cs = '[' :: inside) :
    v.Begins cs rest ↔ ∃ items, v = list items ∧ ItemsBegin items true inside rest := by
  constructor
  · intro h
    obtain ⟨items, rfl⟩ := (h.opens_of first).eq_list
    obtain ⟨_, bracket, hi⟩ := h
    cases first.symm.trans bracket
    exact ⟨items, rfl, hi⟩
  · rintro ⟨items, rfl, hi⟩
    exact ⟨inside, first, hi⟩

/-- An opening brace leaves an object. -/
theorem begins_brace {inside : List Char} (first : dropBlanks cs = '{' :: inside) :
    v.Begins cs rest ↔ ∃ members, v = object members ∧ MembersBegin members true inside rest := by
  constructor
  · intro h
    obtain ⟨members, rfl⟩ := (h.opens_of first).eq_object
    obtain ⟨_, brace, hm⟩ := h
    cases first.symm.trans brace
    exact ⟨members, rfl, hm⟩
  · rintro ⟨members, rfl, hm⟩
    exact ⟨inside, first, hm⟩

/-- A sign leaves a numeral with that sign. -/
theorem begins_minus {more : List Char} (first : dropBlanks cs = '-' :: more) :
    v.Begins cs rest ↔ ∃ size, v = number ('-' :: size) ∧ more = size ++ rest ∧
      IsUnsigned size rest := by
  constructor
  · intro h
    obtain ⟨numeral, rfl⟩ := (h.opens_of first).eq_number (.inl rfl)
    obtain ⟨spelled, hn | ⟨size, rfl, hn⟩⟩ := h
    · obtain ⟨d, ds, rfl, digit⟩ := opens_of_isUnsigned hn
      cases first.symm.trans spelled
      cases digit
    · cases first.symm.trans spelled
      exact ⟨size, rfl, rfl, hn⟩
  · rintro ⟨size, rfl, rfl, hn⟩
    exact ⟨first, .inr ⟨size, rfl, hn⟩⟩

/-- A digit leaves a numeral without a sign. -/
theorem begins_digit {c : Char} {more : List Char} (first : dropBlanks cs = c :: more)
    (digit : c.isDigit = true) : v.Begins cs rest ↔ ∃ numeral, v = number numeral ∧
      c :: more = numeral ++ rest ∧ IsUnsigned numeral rest := by
  constructor
  · intro h
    obtain ⟨numeral, rfl⟩ := (h.opens_of first).eq_number (.inr digit)
    obtain ⟨spelled, hn | ⟨size, rfl, hn⟩⟩ := h
    · exact ⟨numeral, rfl, first.symm.trans spelled, hn⟩
    · cases first.symm.trans spelled
      cases digit
  · rintro ⟨numeral, rfl, spelled, hn⟩
    exact ⟨first.trans spelled, .inl hn⟩

/-- Blanks in front of a value do not count. -/
@[simp] theorem begins_dropBlanks : v.Begins (dropBlanks cs) rest ↔ v.Begins cs rest := by
  cases v with
  | boolean b => cases b <;> simp [Begins]
  | _ => simp [Begins]

theorem keyBegins_dropBlanks {key : List Mark} :
    KeyBegins key (dropBlanks cs) rest ↔ KeyBegins key cs rest := by
  simp [KeyBegins]

/-! ## What is left -/

/-- The rest comes behind at least one character of the text. -/
def Behind (rest cs : List Char) : Prop := ∃ w, w ≠ [] ∧ cs = w ++ rest

theorem Behind.suffix (h : Behind rest cs) : rest <:+ cs := by
  obtain ⟨w, _, rfl⟩ := h
  exact List.suffix_append w rest

theorem Behind.length_lt (h : Behind rest cs) : rest.length < cs.length := by
  obtain ⟨w, some, rfl⟩ := h
  have := List.length_pos_iff.mpr some
  rw [List.length_append]
  omega

theorem Behind.of_suffix {mid : List Char} (h : Behind rest mid) (later : mid <:+ cs) :
    Behind rest cs := by
  obtain ⟨w, some, rfl⟩ := h
  obtain ⟨front, rfl⟩ := later
  exact ⟨front ++ w, List.append_ne_nil_of_right_ne_nil front some, by rw [List.append_assoc]⟩

theorem Behind.trans {mid : List Char} (h : Behind rest mid) (h' : Behind mid cs) :
    Behind rest cs :=
  h.of_suffix h'.suffix

theorem behind_cons (c : Char) (cs : List Char) : Behind cs (c :: cs) := ⟨[c], by simp, rfl⟩

theorem behind_of_append {w : List Char} (h : dropBlanks cs = w ++ rest) (some : w ≠ []) :
    Behind rest cs :=
  Behind.of_suffix ⟨w, some, h⟩ (List.dropWhile_suffix _)

theorem behind_of_dropBlanks {c : Char} {more : List Char} (h : dropBlanks cs = c :: more) :
    Behind more cs :=
  behind_of_append (w := [c]) h (by simp)

theorem suffix_of_follows {first : Bool} {start : List Char} (h : Follows first cs start) :
    start <:+ cs := by
  cases first with
  | true => cases h; exact List.suffix_rfl
  | false => exact (behind_of_dropBlanks h).suffix

theorem behind_of_written {marks : List Mark} (h : Written marks cs rest) : Behind rest cs := by
  induction h with
  | closed => exact behind_cons _ _
  | plain _ _ _ _ ih => exact ih.trans (behind_cons _ _)
  | short _ _ ih => exact ih.trans ((behind_cons _ _).trans (behind_cons _ _))
  | code _ taken _ ih =>
    subst taken
    exact (ih.of_suffix (List.suffix_append _ _)).trans
      ((behind_cons _ _).trans (behind_cons _ _))

theorem behind_of_keyBegins {key : List Mark} (h : KeyBegins key cs rest) : Behind rest cs := by
  obtain ⟨body, behind, quote, written, colon⟩ := h
  exact (behind_of_dropBlanks colon).trans
    ((behind_of_written written).trans (behind_of_dropBlanks quote))

theorem behind_of_items {vs : List Tree} {first : Bool}
    (ih : ∀ v ∈ vs, ∀ cs rest, v.Begins cs rest → Behind rest cs)
    (h : ItemsBegin vs first cs rest) : Behind rest cs := by
  induction vs generalizing first cs with
  | nil => exact behind_of_dropBlanks h
  | cons v vs ihs =>
    obtain ⟨start, mid, follows, hv, hvs⟩ := h
    have left : Behind rest mid := ihs (fun w hw => ih w (by simp [hw])) hvs
    exact (left.trans (ih v (by simp) _ _ hv)).of_suffix (suffix_of_follows follows)

theorem behind_of_members {ms : List (List Mark × Tree)} {first : Bool}
    (ih : ∀ m ∈ ms, ∀ cs rest, m.2.Begins cs rest → Behind rest cs)
    (h : MembersBegin ms first cs rest) : Behind rest cs := by
  induction ms generalizing first cs with
  | nil => exact behind_of_dropBlanks h
  | cons m ms ihs =>
    obtain ⟨key, v⟩ := m
    obtain ⟨start, value, mid, follows, hk, hv, hms⟩ := h
    have left : Behind rest mid := ihs (fun m hm => ih m (by simp [hm])) hms
    have behindKey : Behind rest value := left.trans (ih (key, v) (by simp) _ _ hv)
    exact (behindKey.trans (behind_of_keyBegins hk)).of_suffix (suffix_of_follows follows)

theorem Begins.behind (h : v.Begins cs rest) : Behind rest cs := by
  induction v using nested_induction generalizing cs rest with
  | null => exact behind_of_append h (by decide)
  | boolean b =>
    cases b with
    | true => exact behind_of_append h (by decide)
    | false => exact behind_of_append h (by decide)
  | number numeral =>
    refine behind_of_append h.1 ?_
    rcases h.2 with hn | ⟨size, rfl, _⟩
    · obtain ⟨c, more, rfl, _⟩ := opens_of_isUnsigned hn
      simp
    · simp
  | text marks =>
    obtain ⟨body, quote, written⟩ := h
    exact (behind_of_written written).trans (behind_of_dropBlanks quote)
  | list items ih =>
    obtain ⟨inside, bracket, h⟩ := h
    exact (behind_of_items (fun v hv _ _ => ih v hv) h).trans (behind_of_dropBlanks bracket)
  | object members ih =>
    obtain ⟨inside, bracket, h⟩ := h
    exact (behind_of_members (fun m hm _ _ => ih m hm) h).trans (behind_of_dropBlanks bracket)

end Tree
end GrammarArtifact.Json
