import GrammarArtifact.Json.Writer
import GrammarArtifact.Proofs.Json.Layout

/-! # What is written

The text of a value spells one tree, that of the value: each character of a string is
written as one mark, and only blanks stand between the parts of lists and objects. So
whatever is read of the text was put into it. -/

namespace GrammarArtifact.Json
variable {cs rest : List Char}

/-! ## Strings -/

namespace Mark

def ofChar (c : Char) : Mark :=
  match c with
  | '"' => short '"'
  | '\\' => short '\\'
  | '\x08' => short 'b'
  | '\t' => short 't'
  | '\n' => short 'n'
  | '\x0c' => short 'f'
  | '\r' => short 'r'
  | c =>
    if c.toNat < 0x20 then
      code ['0', '0', Nat.digitChar (c.toNat / 16), Nat.digitChar (c.toNat % 16)]
    else plain c

def ofText (s : String) : List Mark := s.toList.map ofChar

theorem hexDigit?_digitChar : ∀ d < 16, CharSet.hexDigit? (Nat.digitChar d) = some d := by
  decide

theorem hexCode?_control {c : Char} (h : c.toNat < 0x20) :
    Reader.hexCode? ['0', '0', Nat.digitChar (c.toNat / 16), Nat.digitChar (c.toNat % 16)] =
      some c.toNat := by
  have zero : CharSet.hexDigit? '0' = some 0 := by decide
  have high := hexDigit?_digitChar (c.toNat / 16) (by omega)
  have low := hexDigit?_digitChar (c.toNat % 16) (by omega)
  simp only [Reader.hexCode?, zero, high, low, Option.pure_def, Option.bind_eq_bind,
    Option.bind_some, Option.some.injEq]
  omega

/-- A character is written with a letter, with digits or as it is. -/
theorem ofChar_cases (c : Char) :
    (∃ letter, ofChar c = short letter ∧ escaped c = ['\\', letter] ∧
      Reader.shortEscape? letter = some c) ∨
    (∃ digits, ofChar c = code digits ∧ escaped c = '\\' :: 'u' :: digits ∧ c.toNat < 0x20 ∧
      Reader.hexCode? digits = some c.toNat) ∨
    (ofChar c = plain c ∧ escaped c = [c] ∧ 0x20 ≤ c.toNat ∧ c ≠ '"' ∧ c ≠ '\\') := by
  unfold ofChar
  split
  case h_8 quote backslash b t n f r =>
    have otherwise : escaped c = if c.toNat < 0x20 then
        ['\\', 'u', '0', '0', Nat.digitChar (c.toNat / 16), Nat.digitChar (c.toNat % 16)]
        else [c] := escaped.eq_8 c quote backslash b t n f r
    rw [otherwise]
    by_cases control : c.toNat < 0x20
    · rw [if_pos control, if_pos control]
      exact .inr (.inl ⟨_, rfl, rfl, control, hexCode?_control control⟩)
    · rw [if_neg control, if_neg control]
      exact .inr (.inr ⟨rfl, rfl, Nat.le_of_not_lt control, quote, backslash⟩)
  all_goals exact .inl ⟨_, rfl, rfl, rfl⟩

theorem meaning?_ofChar {c : Char} {marks : List Mark} :
    meaning? (ofChar c :: marks) = (meaning? marks).map (c :: ·) := by
  rcases ofChar_cases c with ⟨letter, h, _, known⟩ | ⟨digits, h, _, control, known⟩ | ⟨h, _⟩
  · rw [h, meaning?, known, Option.bind_some]
  · have high : isHigh c.toNat = false := by
      rw [← Bool.not_eq_true, isHigh_iff]
      omega
    have low : isLow c.toNat = false := by
      rw [← Bool.not_eq_true, isLow_iff]
      omega
    rw [h, meaning?, known, Option.bind_some]
    simp [high, low]
  · rw [h, meaning?]

theorem meaning?_map_ofChar (s : List Char) : meaning? (s.map ofChar) = some s := by
  induction s with
  | nil => rfl
  | cons c s ih => rw [List.map_cons, meaning?_ofChar, ih]; rfl

@[simp] theorem text?_ofText (s : String) : text? (ofText s) = some s := by
  unfold text? ofText
  rw [meaning?_map_ofChar]
  simp

end Mark

theorem written_escaped {c : Char} {marks : List Mark} (h : Written marks cs rest) :
    Written (Mark.ofChar c :: marks) (escaped c ++ cs) rest := by
  rcases Mark.ofChar_cases c with ⟨letter, hm, he, known⟩ | ⟨digits, hm, he, _, known⟩ |
    ⟨hm, he, visible, quote, backslash⟩
  · rw [hm, he]
    exact .short (by rw [known]; rfl) h
  · rw [hm, he]
    exact .code (by rw [known]; rfl) rfl h
  · rw [hm, he]
    exact .plain visible quote backslash h

theorem written_ofText (s : String) :
    Written (Mark.ofText s) (s.toList.flatMap escaped ++ '"' :: rest) rest := by
  unfold Mark.ofText
  induction s.toList with
  | nil => exact .closed
  | cons c s ih =>
    rw [List.flatMap_cons, List.append_assoc]
    exact written_escaped ih

theorem toList_stringLiteral (s : String) :
    (stringLiteral s).toList = '"' :: (s.toList.flatMap escaped ++ ['"']) := by
  unfold stringLiteral
  simp

theorem begins_stringLiteral (s : String) :
    (Tree.text (Mark.ofText s)).Begins ((stringLiteral s).toList ++ rest) rest := by
  refine ⟨s.toList.flatMap escaped ++ '"' :: rest, ?_, written_ofText s⟩
  rw [toList_stringLiteral, List.cons_append, List.append_assoc]
  exact dropBlanks_cons rfl _

theorem keyBegins_stringLiteral (s : String) :
    KeyBegins (Mark.ofText s) ((stringLiteral s).toList ++ (": ".toList ++ rest))
      (' ' :: rest) := by
  refine ⟨s.toList.flatMap escaped ++ '"' :: (": ".toList ++ rest), _, ?_, written_ofText s, rfl⟩
  rw [toList_stringLiteral, List.cons_append, List.append_assoc]
  exact dropBlanks_cons rfl _

theorem dropBlanks_newLine (level : Nat) :
    dropBlanks ((newLine level).toList ++ cs) = dropBlanks cs := by
  have blanks : ∀ n, dropBlanks (List.replicate n ' ' ++ cs) = dropBlanks cs := by
    intro n
    induction n with
    | zero => rfl
    | succ n ih => rw [List.replicate_succ, List.cons_append, dropBlanks_blank rfl, ih]
  have text : (newLine level).toList = '\n' :: List.replicate (2 * level) ' ' := by
    unfold newLine
    simp
  rw [text, List.cons_append, dropBlanks_blank rfl, blanks]

/-! ## Whole numbers -/

theorem head?_toDigits {n : Nat} (h : n ≠ 0) : (Nat.toDigits 10 n).head? ≠ some '0' := by
  induction n using Nat.strongRecOn with
  | ind n ih =>
    by_cases small : n < 10
    · rw [Nat.toDigits_of_lt_base small]
      have digits : ∀ n < 10, n ≠ 0 → [n.digitChar].head? ≠ some '0' := by decide
      exact digits n small h
    · rw [Nat.toDigits_of_base_le (by decide) (Nat.le_of_not_lt small),
        List.head?_append_of_ne_nil _ Nat.toDigits_ne_nil]
      exact ih (n / 10) (by omega) (by omega)

/-- The digits of a number do not begin with a zero, unless that is the number. -/
theorem isWhole_toDigits (n : Nat) (h : NoDigit rest) : IsWhole (Nat.toDigits 10 n) rest := by
  refine ⟨⟨Nat.toDigits_ne_nil, fun c hc => Nat.isDigit_of_mem_toDigits (by decide) (by decide) hc,
    h⟩, fun zero => ?_⟩
  by_cases hn : n = 0
  · rw [hn]
    exact Nat.toDigits_zero 10
  · exact (head?_toDigits hn zero).elim

/-! ## Values -/

/-- What may come behind a value that is written. -/
def Ends (rest : List Char) : Prop := ∀ c, rest.head? = some c → c = ',' ∨ c = '\n'

theorem Ends.isUnsigned (h : Ends rest) (n : Nat) : IsUnsigned (Nat.toDigits 10 n) rest := by
  have apart : ∀ c, rest.head? = some c → c.isDigit = false ∧ c ≠ '.' ∧ c ≠ 'e' ∧ c ≠ 'E' := by
    intro c hc
    rcases h c hc with rfl | rfl <;> decide
  have noDigit : NoDigit rest := fun c hc => (apart c hc).1
  refine ⟨Nat.toDigits 10 n, [], [], by simp, isWhole_toDigits n noDigit, .inl ⟨rfl, ?_⟩,
    .inl ⟨rfl, ?_, ?_⟩⟩
  · exact fun hc => (apart _ hc).2.1 rfl
  · exact fun hc => (apart _ hc).2.2.1 rfl
  · exact fun hc => (apart _ hc).2.2.2 rfl

theorem isNumeral_toString (n : Int) (h : Ends rest) : IsNumeral (toString n).toList rest := by
  cases n with
  | ofNat n =>
    have digits : (toString (Int.ofNat n)).toList = Nat.toDigits 10 n := Nat.toList_repr
    rw [digits]
    exact .inl (h.isUnsigned n)
  | negSucc n =>
    have digits : (toString (Int.negSucc n)).toList = '-' :: Nat.toDigits 10 (n + 1) := by
      rw [← Nat.toList_repr]
      exact String.toList_append ..
    rw [digits]
    exact .inr ⟨_, rfl, h.isUnsigned (n + 1)⟩

theorem solid_of_isNumeral {numeral : List Char} (h : IsNumeral numeral rest) :
    ∃ c more, numeral = c :: more ∧ Reader.isBlank c = false := by
  rcases h with h | ⟨size, rfl, _⟩
  · obtain ⟨c, more, rfl, digit⟩ := Tree.opens_of_isUnsigned h
    refine ⟨c, more, rfl, ?_⟩
    by_contra blank
    simp only [Reader.isBlank, Bool.not_eq_false, Bool.or_eq_true, decide_eq_true_eq] at blank
    rcases blank with ((rfl | rfl) | rfl) | rfl <;> cases digit
  · exact ⟨'-', size, rfl, rfl⟩

theorem ends_newLine (level : Nat) : Ends ((newLine level).toList ++ cs) := by
  intro c hc
  have text : (newLine level).toList = '\n' :: List.replicate (2 * level) ' ' := by
    unfold newLine
    simp
  rw [text] at hc
  exact .inr (Option.some.inj hc).symm

namespace Value

mutual

def tree : Value → Tree
  | .boolean b => .boolean b
  | .integer n => .number (toString n).toList
  | .text s => .text (Mark.ofText s)
  | .list items => .list (trees items)
  | .object members => .object (memberTrees members)

def trees : List Value → List Tree
  | [] => []
  | v :: vs => v.tree :: trees vs

def memberTrees : List (String × Value) → List (List Mark × Tree)
  | [] => []
  | (key, v) :: ms => (Mark.ofText key, v.tree) :: memberTrees ms

end

theorem ends_renderItems (level : Nat) (vs : List Value) (h : Ends cs) :
    Ends ((renderItems level vs).toList ++ cs) := by
  cases vs with
  | nil => exact h
  | cons v vs =>
    intro c hc
    simp only [renderItems, String.toList_append, List.append_assoc] at hc
    exact .inl (Option.some.inj hc).symm

theorem ends_renderMembers (level : Nat) (ms : List (String × Value)) (h : Ends cs) :
    Ends ((renderMembers level ms).toList ++ cs) := by
  cases ms with
  | nil => exact h
  | cons m ms =>
    obtain ⟨key, v⟩ := m
    intro c hc
    simp only [renderMembers, String.toList_append, List.append_assoc] at hc
    exact .inl (Option.some.inj hc).symm

/-- A line break in front of a value does not count. -/
theorem begins_newLine {t : Tree} (level : Nat) (h : t.Begins cs rest) :
    t.Begins ((newLine level).toList ++ cs) rest := by
  rw [← Tree.begins_dropBlanks, dropBlanks_newLine, Tree.begins_dropBlanks]
  exact h

/-- Nor does it in front of a key, and a blank may stand behind the colon. -/
theorem keyBegins_newLine {key : String} (level : Nat) :
    KeyBegins (Mark.ofText key)
      ((newLine level).toList ++ ((stringLiteral key).toList ++ (": ".toList ++ cs)))
      (' ' :: cs) := by
  rw [← Tree.keyBegins_dropBlanks, dropBlanks_newLine, Tree.keyBegins_dropBlanks]
  exact keyBegins_stringLiteral key

theorem begins_blank {t : Tree} (h : t.Begins cs rest) : t.Begins (' ' :: cs) rest := by
  rw [← Tree.begins_dropBlanks, dropBlanks_blank rfl, Tree.begins_dropBlanks]
  exact h

mutual

/-- **The text of a value begins with the tree of the value.** -/
theorem begins_render {rest : List Char} : (v : Value) → (level : Nat) → (ends : Ends rest) →
    v.tree.Begins ((v.render level).toList ++ rest) rest
  | .boolean b, level, _ => by
    cases b with
    | true => rw [render]; exact dropBlanks_cons rfl ("rue".toList ++ rest)
    | false => rw [render]; exact dropBlanks_cons rfl ("alse".toList ++ rest)
  | .integer n, level, ends => by
    rw [render]
    have numeral := isNumeral_toString n ends
    obtain ⟨c, more, text, solid⟩ := solid_of_isNumeral numeral
    refine ⟨?_, numeral⟩
    rw [text, List.cons_append]
    exact dropBlanks_cons solid _
  | .text s, level, _ => by
    rw [render]
    exact begins_stringLiteral s
  | .list [], level, _ => by
    rw [render]
    exact ⟨']' :: rest, dropBlanks_cons rfl _, dropBlanks_cons rfl _⟩
  | .list (item :: items), level, ends => by
    simp only [render, String.toList_append, List.append_assoc]
    refine ⟨_, dropBlanks_cons rfl _, _, _, rfl, begins_newLine _ (begins_render item _ ?_),
      itemsBegin_render items (level + 1) level⟩
    exact ends_renderItems _ _ (ends_newLine _)
  | .object [], level, _ => by
    rw [render]
    exact ⟨'\x7d' :: rest, dropBlanks_cons rfl _, dropBlanks_cons rfl _⟩
  | .object ((key, v) :: ms), level, ends => by
    simp only [render, String.toList_append, List.append_assoc]
    refine ⟨_, dropBlanks_cons rfl _, _, _, _, rfl, keyBegins_newLine _,
      begins_blank (begins_render v _ ?_), membersBegin_render ms (level + 1) level⟩
    exact ends_renderMembers _ _ (ends_newLine _)

/-- The items that follow another one, and the end of the list. -/
theorem itemsBegin_render {rest : List Char} : (vs : List Value) → (level outer : Nat) →
    Tree.ItemsBegin (trees vs) false
      ((renderItems level vs).toList ++ ((newLine outer).toList ++ ("]".toList ++ rest))) rest
  | [], level, outer => (dropBlanks_newLine outer).trans (dropBlanks_cons rfl _)
  | v :: vs, level, outer => by
    simp only [renderItems, String.toList_append, List.append_assoc]
    refine ⟨_, _, dropBlanks_cons rfl _, begins_newLine _ (begins_render v _ ?_),
      itemsBegin_render vs level outer⟩
    exact ends_renderItems _ _ (ends_newLine _)

/-- The members that follow another one, and the end of the object. -/
theorem membersBegin_render {rest : List Char} : (ms : List (String × Value)) →
    (level outer : Nat) → Tree.MembersBegin (memberTrees ms) false
      ((renderMembers level ms).toList ++ ((newLine outer).toList ++ ("\x7d".toList ++ rest))) rest
  | [], level, outer => (dropBlanks_newLine outer).trans (dropBlanks_cons rfl _)
  | (key, v) :: ms, level, outer => by
    simp only [renderMembers, String.toList_append, List.append_assoc]
    refine ⟨_, _, _, dropBlanks_cons rfl _, keyBegins_newLine _,
      begins_blank (begins_render v _ ?_), membersBegin_render ms level outer⟩
    exact ends_renderMembers _ _ (ends_newLine _)

end

/-- **The text of a value spells the tree of the value.** -/
theorem spelled_render (v : Value) (level : Nat) : v.tree.Spelled (v.render level) := by
  refine ⟨[], ?_, rfl⟩
  have h : v.tree.Begins ((v.render level).toList ++ []) [] := begins_render v level nofun
  rwa [List.append_nil] at h

/-! ## Decoded trees of values -/

variable {α : Type} {room : Nat} {d : Tree → Option α}

theorem mapM_memberTrees (ms : List (String × Value)) :
    (memberTrees ms).mapM (Tree.member? d) = ms.mapM fun m => (d m.2.tree).map (m.1, ·) := by
  induction ms with
  | nil => rfl
  | cons m ms ih =>
    obtain ⟨key, v⟩ := m
    rw [memberTrees, List.mapM_cons, List.mapM_cons, ih, Tree.member?, Mark.text?_ofText]
    rfl

theorem mapM_trees {f : α → Value} (inverse : ∀ a, d (f a).tree = some a) (as : List α) :
    (trees (as.map f)).mapM d = some as := by
  induction as with
  | nil => rfl
  | cons a as ih =>
    rw [List.map_cons, trees, List.mapM_cons, inverse, ih]
    rfl

/-- A list is decoded to what it was made of. -/
theorem list?_tree (free : room ≠ 0) {f : α → Value} (inverse : ∀ a, d (f a).tree = some a)
    (as : List α) : Tree.list? room d (Value.list (as.map f)).tree = some as := by
  rw [tree, Tree.list?, if_neg free, mapM_trees inverse]

/-- A map is decoded to what it was made of. -/
theorem dictionary?_tree (free : room ≠ 0) {f : α → Value}
    (inverse : ∀ a, d (f a).tree = some a) (entries : List (String × α)) :
    Tree.dictionary? room d (Value.object (entries.map fun e => (e.1, f e.2))).tree =
      some entries := by
  rw [tree, Tree.dictionary?, if_neg free, mapM_memberTrees]
  induction entries with
  | nil => rfl
  | cons e entries ih =>
    rw [List.map_cons, List.mapM_cons, ih, inverse]
    rfl

/-- A record is made of the values that were written under its keys. -/
theorem record?_tree {l : Layout α} (free : room ≠ 0) (ms : List (String × Value)) :
    l.record? room (Value.object ms).tree = l.ofMembers? (ms.map fun m => (m.1, m.2.tree)) := by
  have named : (memberTrees ms).mapM (Tree.member? some) =
      some (ms.map fun m => (m.1, m.2.tree)) := by
    rw [mapM_memberTrees]
    induction ms with
    | nil => rfl
    | cons m ms ih =>
      rw [List.mapM_cons, ih]
      rfl
  rw [tree, Layout.record?, if_neg free, named, Option.bind_some]

end Value

/-! ## Records in the order of their properties -/

namespace Layout
variable {α : Type} {l : Layout α}

/-- The members give some of these properties, in their order, and lead from one record to
another. -/
inductive Gives : List (Property α) → List (String × Tree) → α → α → Prop
  | done {a : α} : Gives [] [] a a
  | given {p : Property α} {v : Tree} {x : p.Value} {properties : List (Property α)}
      {named : List (String × Tree)} {a b : α} (value : p.value? v = some x)
      (others : Gives properties named (p.put a x) b) :
      Gives (p :: properties) ((p.name, v) :: named) a b
  | absent {p : Property α} {properties : List (Property α)} {named : List (String × Tree)}
      {a b : α} (optional : p.required = false) (others : Gives properties named a b) :
      Gives (p :: properties) named a b

theorem Gives.known {properties : List (Property α)} {named : List (String × Tree)} {a b : α}
    (h : Gives properties named a b) (known : ∀ p ∈ properties, l.property? p.name = some p) :
    (names (l.known named)).Sublist (properties.map Property.name) ∧
      (∀ p ∈ properties, p.required = true → p.name ∈ names (l.known named)) ∧
      assign? a (l.known named) = some b := by
  induction h with
  | done => exact ⟨List.Sublist.refl _, nofun, rfl⟩
  | @given p v x properties named a b value _ ih =>
    obtain ⟨sublist, required, assigned⟩ := ih fun q hq => known q (List.mem_cons_of_mem p hq)
    rw [known_cons, known p List.mem_cons_self]
    refine ⟨sublist.cons_cons p.name, fun q hq needed => ?_, ?_⟩
    · rcases List.mem_cons.mp hq with rfl | hq
      · exact List.mem_cons_self
      · exact List.mem_cons_of_mem _ (required q hq needed)
    · rw [assign?_cons, Property.assign?, value]
      exact assigned
  | @absent p properties named a b optional _ ih =>
    obtain ⟨sublist, required, assigned⟩ := ih fun q hq => known q (List.mem_cons_of_mem p hq)
    refine ⟨sublist.cons p.name, fun q hq needed => ?_, assigned⟩
    rcases List.mem_cons.mp hq with rfl | hq
    · rw [optional] at needed
      cases needed
    · exact required q hq needed

/-- The members that were written for a record make that record. -/
theorem Gives.record? {ms : List (String × Value)} {a : α} {room : Nat}
    (h : Gives l.properties (ms.map fun m => (m.1, m.2.tree)) l.blank a)
    (distinct : (l.properties.map Property.name).Nodup) (free : room ≠ 0) :
    l.record? room (Value.object ms).tree = some a := by
  obtain ⟨sublist, required, assigned⟩ := h.known fun p hp => property?_name distinct hp
  rw [Value.record?_tree free, ofMembers?, if_pos ⟨sublist.nodup distinct, required⟩, assigned]

end Layout
end GrammarArtifact.Json
