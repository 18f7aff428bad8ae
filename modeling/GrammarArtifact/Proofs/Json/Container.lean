import GrammarArtifact.Proofs.Json.Decoding

/-! # Lists and objects

The members of a bracket are read one after the other, and the decoder of the whole asks
for every one of them. A reader of members stops in front of the closing bracket, which
the reader around it takes. -/

namespace GrammarArtifact.Json
variable {cs rest : List Char}

/-! ## The next member -/

/-- The characters with which a member may begin. -/
def Bracket.Leads : Bracket → Char → Prop
  | list, c => c ≠ ']'
  | object, c => c = '"'

/-- Either another member is next, behind the comma if it takes one, or the end of the bracket. -/
def Next (bracket : Bracket) (first : Bool) (cs : List Char) : Bool → (rest : List Char) → Prop
  | true, rest => ∃ start c behind, Follows first cs start ∧ dropBlanks start = c :: behind ∧
      bracket.Leads c ∧ rest = c :: behind
  | false, rest => ∃ behind, dropBlanks cs = bracket.closing :: behind ∧ rest = dropBlanks cs

section
variable {bracket : Bracket} {first more : Bool} {c : Char} {behind : List Char}

theorem Bracket.not_leads_closing : ¬ bracket.Leads bracket.closing := by
  cases bracket with
  | list => exact fun h => h rfl
  | object => exact nofun

theorem leads_of_opens {v : Tree} (h : v.Opens c) : Bracket.Leads .list c := by
  rintro rfl
  exact Tree.not_opens_closing .list h

theorem not_next_of_nil (h : dropBlanks cs = []) : ¬ Next bracket first cs more rest := by
  intro hn
  cases more with
  | false =>
    obtain ⟨behind, closing, _⟩ := hn
    exact nomatch h.symm.trans closing
  | true =>
    obtain ⟨start, c, behind, follows, hc, _⟩ := hn
    cases first with
    | true => cases follows; exact nomatch h.symm.trans hc
    | false => exact nomatch h.symm.trans follows

theorem next_of_closing (bracket : Bracket) (h : dropBlanks cs = bracket.closing :: behind) :
    Next bracket first cs more rest ↔ more = false ∧ rest = bracket.closing :: behind := by
  cases more with
  | false => simp [Next, h]
  | true =>
    suffices ¬ Next bracket first cs true rest by simpa
    rintro ⟨start, c, behind', follows, hc, leads, _⟩
    cases first with
    | true =>
      cases follows
      cases h.symm.trans hc
      exact Bracket.not_leads_closing leads
    | false =>
      have := (List.cons.inj (h.symm.trans follows)).1
      cases bracket <;> simp [Bracket.closing] at this

theorem next_first (h : dropBlanks cs = c :: behind) (closing : c ≠ bracket.closing) :
    Next bracket true cs more rest ↔ more = true ∧ bracket.Leads c ∧ rest = c :: behind := by
  cases more with
  | false => simp [Next, h, closing]
  | true => simp [Next, Follows, h]

theorem next_comma {start : List Char} (h : dropBlanks cs = ',' :: start) :
    Next bracket false cs more rest ↔ more = true ∧ ∃ c behind, dropBlanks start = c :: behind ∧
      bracket.Leads c ∧ rest = c :: behind := by
  cases more with
  | false => cases bracket <;> simp [Next, h, Bracket.closing]
  | true => simp [Next, Follows, h]

theorem not_next_of_other (h : dropBlanks cs = c :: behind) (closing : c ≠ bracket.closing)
    (comma : c ≠ ',') : ¬ Next bracket false cs more rest := by
  cases more with
  | false => simp [Next, h, closing]
  | true => simp [Next, Follows, h, comma]
theorem Next.length_le (h : Next bracket first cs true rest) : rest.length ≤ cs.length := by
  obtain ⟨start, c, behind, follows, front, _, rfl⟩ := h
  rw [← front]
  exact (length_dropBlanks_le start).trans (Tree.suffix_of_follows follows).length_le

theorem Next.quote (h : Next .object first cs true rest) : ∃ body, rest = '"' :: body := by
  obtain ⟨start, c, body, _, _, rfl, rfl⟩ := h
  exact ⟨body, rfl⟩

/-! The inside of a bracket is a step of this kind after the other. -/

theorem itemsBegin_nil :
    Tree.ItemsBegin [] first cs rest ↔ Next .list first cs false (']' :: rest) :=
  ⟨fun h => ⟨rest, h, h.symm⟩, fun ⟨_, _, h⟩ => h.symm⟩

theorem itemsBegin_cons {v : Tree} {vs : List Tree} : Tree.ItemsBegin (v :: vs) first cs rest ↔
    ∃ mid behind, Next .list first cs true mid ∧ v.Begins mid behind ∧
      Tree.ItemsBegin vs false behind rest := by
  constructor
  · rintro ⟨start, behind, follows, hv, hvs⟩
    obtain ⟨c, more, front, opens⟩ := hv.opens
    refine ⟨_, behind, ⟨start, c, more, follows, front, leads_of_opens opens, rfl⟩, ?_, hvs⟩
    rwa [← front, Tree.begins_dropBlanks]
  · rintro ⟨_, behind, ⟨start, c, more, follows, front, _, rfl⟩, hv, hvs⟩
    rw [← front, Tree.begins_dropBlanks] at hv
    exact ⟨start, behind, follows, hv, hvs⟩

theorem membersBegin_nil :
    Tree.MembersBegin [] first cs rest ↔ Next .object first cs false ('\x7d' :: rest) :=
  ⟨fun h => ⟨rest, h, h.symm⟩, fun ⟨_, _, h⟩ => h.symm⟩

theorem membersBegin_cons {key : List Mark} {v : Tree} {ms : List (List Mark × Tree)} :
    Tree.MembersBegin ((key, v) :: ms) first cs rest ↔
      ∃ mid value behind, Next .object first cs true mid ∧ KeyBegins key mid value ∧
        v.Begins value behind ∧ Tree.MembersBegin ms false behind rest := by
  constructor
  · rintro ⟨start, value, behind, follows, ⟨body, closed, quote, key⟩, hv, hms⟩
    exact ⟨_, value, behind, ⟨start, _, body, follows, quote, rfl, rfl⟩,
      ⟨body, closed, dropBlanks_cons rfl body, key⟩, hv, hms⟩
  · rintro ⟨_, value, behind, ⟨start, c, body, follows, quote, _, rfl⟩, hk, hv, hms⟩
    rw [← quote, Tree.keyBegins_dropBlanks] at hk
    exact ⟨start, value, behind, follows, hk, hv, hms⟩

end

namespace Reader

/-- An element has to come behind the comma in a list. -/
theorem exact_elementBehindComma : Exact (do
      match ← peekToken? with
      | none => fail .endInValue
      | some ']' => failAhead .trailingComma
      | some _ => return true) cs fun more rest => more = true ∧ ∃ c behind,
        dropBlanks cs = c :: behind ∧ Bracket.Leads .list c ∧ rest = c :: behind := by
  refine exact_peekToken ?_
  cases front : dropBlanks cs with
  | nil => exact (refuses_fail _).exact (by simp)
  | cons c behind =>
    dsimp only [List.head?_cons]
    split
    · next h => cases h
    · next h =>
      cases h
      exact (refuses_failAhead _).exact (by simp [Bracket.Leads])
    · next leads h =>
      cases h
      refine exact_pure.congr fun more rest => ?_
      constructor
      · rintro ⟨rfl, rfl⟩
        exact ⟨rfl, c, behind, rfl, leads, rfl⟩
      · rintro ⟨rfl, _, _, h, _, rfl⟩
        exact ⟨rfl, h.symm⟩

theorem exact_nextElement (first : Bool) :
    Exact (nextElement first) cs (Next .list first cs) := by
  refine exact_peekToken ?_
  cases front : dropBlanks cs with
  | nil => exact (refuses_fail _).exact fun _ _ => not_next_of_nil front
  | cons c behind =>
    dsimp only [List.head?_cons]
    split
    · next h => cases h
    · next h =>
      cases h
      exact exact_pure.congr fun _ _ => (next_of_closing .list front).symm
    · next other h =>
      cases h
      have closing : c ≠ Bracket.closing .list := fun h => other h
      cases first with
      | true =>
        refine exact_pure.congr fun _ _ => ?_
        rw [next_first front closing]
        exact ⟨fun ⟨h, h'⟩ => ⟨h, closing, h'⟩, fun ⟨h, _, h'⟩ => ⟨h, h'⟩⟩
      | false =>
        by_cases comma : c = ','
        · subst comma
          exact (exact_skip exact_elementBehindComma).congr fun _ _ => (next_comma front).symm
        · simp only [Bool.false_eq_true, if_false, if_neg comma]
          exact (refuses_failAhead _).exact fun _ _ => not_next_of_other front closing comma

/-- A key has to come behind the comma in an object. -/
theorem exact_keyBehindComma : Exact (do
      match ← peekToken? with
      | none => fail .endInValue
      | some '"' => return true
      | some '\x7d' => failAhead .trailingComma
      | some _ => failAhead .keyNotString) cs fun more rest => more = true ∧ ∃ c behind,
        dropBlanks cs = c :: behind ∧ Bracket.Leads .object c ∧ rest = c :: behind := by
  refine exact_peekToken ?_
  cases front : dropBlanks cs with
  | nil => exact (refuses_fail _).exact (by simp)
  | cons c behind =>
    dsimp only [List.head?_cons]
    split
    · next h => cases h
    · next h =>
      cases h
      refine exact_pure.congr fun more rest => ?_
      constructor
      · rintro ⟨rfl, rfl⟩
        exact ⟨rfl, _, behind, rfl, rfl, rfl⟩
      · rintro ⟨rfl, _, _, h, _, rfl⟩
        exact ⟨rfl, h.symm⟩
    · next h =>
      cases h
      exact (refuses_failAhead _).exact (by simp [Bracket.Leads])
    · next quote _ h =>
      cases h
      have other : c ≠ '"' := quote
      exact (refuses_failAhead _).exact (by simp [Bracket.Leads, other])

theorem exact_nextKey (first : Bool) : Exact (nextKey first) cs (Next .object first cs) := by
  refine exact_peekToken ?_
  cases front : dropBlanks cs with
  | nil => exact (refuses_fail _).exact fun _ _ => not_next_of_nil front
  | cons c behind =>
    dsimp only [List.head?_cons]
    split
    · next h => cases h
    · next h =>
      cases h
      exact exact_pure.congr fun _ _ => (next_of_closing .object front).symm
    · next other h =>
      cases h
      have closing : c ≠ Bracket.closing .object := fun h => other h
      cases first with
      | true =>
        by_cases quote : c = '"'
        · simp only [if_true, if_pos quote]
          refine exact_pure.congr fun _ _ => ?_
          rw [next_first front closing]
          exact ⟨fun ⟨h, h'⟩ => ⟨h, quote, h'⟩, fun ⟨h, _, h'⟩ => ⟨h, h'⟩⟩
        · simp only [if_true, if_neg quote]
          refine (refuses_failAhead _).exact fun _ _ h => ?_
          exact quote ((next_first front closing).mp h).2.1
      | false =>
        by_cases comma : c = ','
        · subst comma
          exact (exact_skip exact_keyBehindComma).congr fun _ _ => (next_comma front).symm
        · simp only [Bool.false_eq_true, if_false, if_neg comma]
          exact (refuses_failAhead _).exact fun _ _ => not_next_of_other front closing comma

/-! ## Lists -/

section
variable {α : Type} {r : Reader α} {d : Tree → Option α}

/-- The items that are left in a list, up to the closing bracket. -/
theorem exact_elements (h : Reads r d) {bound : List Char} {first : Bool} {done : List α}
    (enough : cs.length ≤ bound.length) :
    Exact (elements r bound first done) cs fun as mid => ∃ rest, mid = ']' :: rest ∧
      ∃ items more, Tree.ItemsBegin items first cs rest ∧ items.mapM d = some more ∧
        as = done.reverse ++ more := by
  induction bound generalizing cs first done with
  | nil =>
    cases List.length_eq_zero_iff.mp (Nat.le_zero.mp enough)
    refine (refuses_fail _).exact ?_
    rintro _ _ ⟨rest, _, items, _, h, _⟩
    exact Tree.ne_nil_of_items h rfl
  | cons _ bound ih =>
    refine ((exact_nextElement first).bind (R := fun more mid as end' => if more then
      ∃ a behind, Tree.Spells d mid a behind ∧ ∃ rest, end' = ']' :: rest ∧ ∃ items more,
        Tree.ItemsBegin items false behind rest ∧ items.mapM d = some more ∧
        as = (a :: done).reverse ++ more
      else as = done.reverse ∧ end' = mid) fun more mid hn => ?_).congr fun as end' => ?_
    · cases more with
      | false => exact exact_pure.congr (by simp)
      | true =>
        refine ((h mid).bind fun a behind ha => ih ?_).congr (by simp)
        obtain ⟨v, hv, _⟩ := ha
        have h₁ := hn.length_le
        have h₂ := hv.behind.length_lt
        rw [List.length_cons] at enough
        omega
    · constructor
      · rintro ⟨more, mid, hn, hr⟩
        cases more with
        | false =>
          obtain ⟨rfl, rfl⟩ := hr
          obtain ⟨rest, closing, rfl⟩ := hn
          exact ⟨rest, closing, [], [], closing, rfl, by simp⟩
        | true =>
          obtain ⟨a, behind, ⟨v, hv, hd⟩, rest, rfl, items, more, hi, hm, rfl⟩ := hr
          exact ⟨rest, rfl, v :: items, a :: more, itemsBegin_cons.mpr ⟨mid, behind, hn, hv, hi⟩,
            by simp [hd, hm], by simp⟩
      · rintro ⟨rest, rfl, items, more, hi, hm, rfl⟩
        cases items with
        | nil =>
          cases hm
          exact ⟨false, _, itemsBegin_nil.mp hi, by simp⟩
        | cons v items =>
          obtain ⟨mid, behind, hn, hv, hi⟩ := itemsBegin_cons.mp hi
          simp only [List.mapM_cons, Option.bind_eq_bind, Option.bind_eq_some_iff,
            Option.pure_def, Option.some.injEq] at hm
          obtain ⟨a, hd, more, hm, rfl⟩ := hm
          exact ⟨true, mid, hn, a, behind, ⟨v, hv, hd⟩, rest, rfl, items, more, hi, hm, by simp⟩

/-- Whatever is read in a list, the whole list is read. -/
theorem reads_list (room : Nat) (h : Reads r d) : Reads (list room r) (Tree.list? room d) := by
  intro cs
  refine exact_peekToken ?_
  cases first : dropBlanks cs with
  | nil => exact (refuses_wrongKind _).spells_nil first
  | cons c more =>
    dsimp only [List.head?_cons]
    split
    · next hc =>
      cases hc
      have inside : Exact (do elements r (← get).rest true []) more _ :=
        exact_get fun _ => exact_elements h le_rfl
      refine (exact_enclosed (exact_closed .list inside)).congr fun as rest => ?_
      rw [spells_list first]
      constructor
      · rintro ⟨some, items, more, hi, hm, rfl⟩
        exact ⟨items, hi, by simp [Tree.list?, some, hm]⟩
      · rintro ⟨items, hi, hd⟩
        simp only [Tree.list?, Option.ite_none_left_eq_some] at hd
        exact ⟨hd.1, items, as, hi, hd.2, by simp⟩
    · next other =>
      refine (refuses_wrongKind _).spells first fun v opens => ?_
      cases v with
      | list items => cases opens; exact (other rfl).elim
      | _ => rfl

/-! ## Objects with free keys -/

/-- A key whose quote is next, with its colon. -/
theorem exact_key {body : List Char} {f : String → Reader α}
    {Q : String → List Char → α → List Char → Prop}
    (hf : ∀ s mid, (∃ key, KeyBegins key ('"' :: body) mid) → Exact (f s) mid (Q s mid)) :
    Exact (do let s ← string; colon; f s) ('"' :: body) fun a rest =>
      ∃ key mid s, KeyBegins key ('"' :: body) mid ∧ Mark.text? key = some s ∧ Q s mid a rest := by
  have quote : dropBlanks ('"' :: body) = '"' :: body := dropBlanks_cons rfl body
  refine (exact_string.bind fun s behind written => exact_colon.bind fun _ mid colon =>
    hf s mid ?_).congr fun a rest => ?_
  · obtain ⟨key, written, _⟩ := written
    exact ⟨key, body, behind, quote, written, colon⟩
  constructor
  · rintro ⟨s, behind, ⟨key, written, hs⟩, _, mid, colon, hQ⟩
    exact ⟨key, mid, s, ⟨body, behind, quote, written, colon⟩, hs, hQ⟩
  · rintro ⟨key, mid, s, ⟨body', behind, quote', written, colon⟩, hs, hQ⟩
    cases quote.symm.trans quote'
    exact ⟨s, behind, ⟨key, written, hs⟩, (), mid, colon, hQ⟩

/-- The entries that are left in an object, up to the closing bracket. -/
theorem exact_entries (h : Reads r d) {bound : List Char} {first : Bool}
    {done : List (String × α)} (enough : cs.length ≤ bound.length) :
    Exact (entries r bound first done) cs fun as mid => ∃ rest, mid = '\x7d' :: rest ∧
      ∃ members more, Tree.MembersBegin members first cs rest ∧
        members.mapM (Tree.member? d) = some more ∧ as = done.reverse ++ more := by
  induction bound generalizing cs first done with
  | nil =>
    cases List.length_eq_zero_iff.mp (Nat.le_zero.mp enough)
    refine (refuses_fail _).exact ?_
    rintro _ _ ⟨rest, _, items, _, h, _⟩
    exact Tree.ne_nil_of_members h rfl
  | cons _ bound ih =>
    refine ((exact_nextKey first).bind (R := fun more mid as end' => if more then
      ∃ key value s, KeyBegins key mid value ∧ Mark.text? key = some s ∧
        ∃ a behind, Tree.Spells d value a behind ∧ ∃ rest, end' = '\x7d' :: rest ∧ ∃ members more,
        Tree.MembersBegin members false behind rest ∧ members.mapM (Tree.member? d) = some more ∧
        as = ((s, a) :: done).reverse ++ more
      else as = done.reverse ∧ end' = mid) fun more mid hn => ?_).congr fun as end' => ?_
    · cases more with
      | false => exact exact_pure.congr (by simp)
      | true =>
        have h₁ := hn.length_le
        obtain ⟨body, rfl⟩ := hn.quote
        refine (exact_key fun s value hk => (h value).bind fun a behind ha => ih ?_).congr
          (by simp)
        obtain ⟨key, hk⟩ := hk
        obtain ⟨v, hv, _⟩ := ha
        have h₂ := (Tree.behind_of_keyBegins hk).length_lt
        have h₃ := hv.behind.length_lt
        rw [List.length_cons] at enough
        omega
    · constructor
      · rintro ⟨more, mid, hn, hr⟩
        cases more with
        | false =>
          obtain ⟨rfl, rfl⟩ := hr
          obtain ⟨rest, closing, rfl⟩ := hn
          exact ⟨rest, closing, [], [], closing, rfl, by simp⟩
        | true =>
          obtain ⟨key, value, s, hk, hs, a, behind, ⟨v, hv, hd⟩, rest, rfl, members, more, hm,
            hmore, rfl⟩ := hr
          exact ⟨rest, rfl, (key, v) :: members, (s, a) :: more,
            membersBegin_cons.mpr ⟨mid, value, behind, hn, hk, hv, hm⟩,
            by simp [Tree.member?, hs, hd, hmore], by simp⟩
      · rintro ⟨rest, rfl, members, more, hm, hmore, rfl⟩
        cases members with
        | nil =>
          cases hmore
          exact ⟨false, _, membersBegin_nil.mp hm, by simp⟩
        | cons m members =>
          obtain ⟨key, v⟩ := m
          obtain ⟨mid, value, behind, hn, hk, hv, hm⟩ := membersBegin_cons.mp hm
          simp only [List.mapM_cons, Tree.member?, Option.bind_eq_bind, Option.bind_eq_some_iff,
            Option.map_eq_some_iff, Option.pure_def, Option.some.injEq] at hmore
          obtain ⟨_, ⟨s, hs, a, hd, rfl⟩, more, hmore, rfl⟩ := hmore
          exact ⟨true, mid, hn, key, value, s, hk, hs, a, behind, ⟨v, hv, hd⟩, rest, rfl, members,
            more, hm, hmore, by simp⟩

/-- Whatever is read under free keys, the whole object is read. -/
theorem reads_dictionary (room : Nat) (h : Reads r d) :
    Reads (dictionary room r) (Tree.dictionary? room d) := by
  intro cs
  refine exact_peekToken ?_
  cases first : dropBlanks cs with
  | nil => exact (refuses_wrongKind _).spells_nil first
  | cons c more =>
    dsimp only [List.head?_cons]
    split
    · next hc =>
      cases hc
      have inside : Exact (do entries r (← get).rest true []) more _ :=
        exact_get fun _ => exact_entries h le_rfl
      refine (exact_enclosed (exact_closed .object inside)).congr fun as rest => ?_
      rw [spells_object first]
      constructor
      · rintro ⟨some, members, more, hm, hmore, rfl⟩
        exact ⟨members, hm, by simp [Tree.dictionary?, some, hmore]⟩
      · rintro ⟨members, hm, hd⟩
        simp only [Tree.dictionary?, Option.ite_none_left_eq_some] at hd
        exact ⟨hd.1, members, as, hm, hd.2, by simp⟩
    · next other =>
      refine (refuses_wrongKind _).spells first fun v opens => ?_
      cases v with
      | object members => cases opens; exact (other rfl).elim
      | _ => rfl

end

/-! ## Known names -/

section
variable {α : Type}

theorem exact_knownName (known : List (String × α)) : Exact (knownName known) cs fun a rest =>
    ∃ marks, (Tree.text marks).Begins cs rest ∧
      (Mark.text? marks).bind (List.lookup · known) = some a := by
  refine ((reads_text "variant identifier" cs).bind (R := fun s mid a rest =>
    List.lookup s known = some a ∧ rest = mid) fun s mid _ => ?_).congr fun a rest => ?_
  · cases List.lookup s known with
    | none => exact (refuses_fail _).exact (by simp)
    | some b => exact exact_pure.congr (by simp [eq_comm])
  · constructor
    · rintro ⟨s, mid, ⟨v, hv, hs⟩, ha, rfl⟩
      cases v with
      | text marks =>
        have hs : Mark.text? marks = some s := hs
        exact ⟨marks, hv, by rw [hs]; exact ha⟩
      | _ => cases hs
    · rintro ⟨marks, hv, ha⟩
      obtain ⟨s, hs, ha⟩ := Option.bind_eq_some_iff.mp ha
      exact ⟨s, rest, ⟨_, hv, hs⟩, ha, rfl⟩

/-- Nothing is said by `null`. -/
theorem exact_nothing : Exact nothing cs fun _ rest => Tree.null.Begins cs rest := by
  refine exact_peekToken ?_
  cases first : dropBlanks cs with
  | nil =>
    refine (refuses_wrongKind _).exact fun _ _ h => ?_
    exact Tree.not_begins_of_nil first h
  | cons c more =>
    dsimp only [List.head?_cons]
    split
    · next h =>
      cases h
      exact (exact_word _).congr fun _ _ => by rw [Tree.Begins, first]
    · next other =>
      refine (refuses_wrongKind _).exact fun _ _ h => ?_
      have opens : c = 'n' := h.opens_of first
      subst opens
      exact other rfl

/-- The end of an object with one key. -/
theorem exact_onlyKey {a : α} : Exact (do
      match ← peekToken? with
      | some '\x7d' => do skip; return a
      | some _ => fail .valueMissing
      | none => fail .endInObject) cs fun b rest => dropBlanks cs = '\x7d' :: rest ∧ b = a := by
  refine exact_peekToken ?_
  cases first : dropBlanks cs with
  | nil => exact (refuses_fail _).exact (by simp)
  | cons c more =>
    dsimp only [List.head?_cons]
    split
    · next h =>
      cases h
      refine Exact.congr (exact_skip (f := fun _ => pure a) exact_pure) fun b rest => ?_
      simp [and_comm, eq_comm]
    · next other h =>
      cases h
      exact (refuses_fail _).exact fun _ _ h => other (List.cons.inj h.1).1
    · next h => cases h

/-- The inside of an object that has a known name as its only key, with nothing under it. -/
theorem exact_nameAsKey (known : List (String × α)) : Exact (do
      let value ← knownName known
      colon
      nothing
      match ← peekToken? with
      | some '\x7d' => do skip; return value
      | some _ => fail .valueMissing
      | none => fail .endInObject) cs fun a rest => ∃ key,
        Tree.MembersBegin [(key, .null)] true cs rest ∧
        (Mark.text? key).bind (List.lookup · known) = some a := by
  refine ((exact_knownName known).bind fun a _ _ => exact_colon.bind fun _ _ _ =>
    exact_nothing.bind fun _ _ _ => exact_onlyKey).congr fun a rest => ?_
  constructor
  · rintro ⟨_, behind, ⟨key, ⟨body, quote, written⟩, ha⟩, _, value, colon, _, mid, hv, closing, rfl⟩
    exact ⟨key, ⟨cs, value, mid, rfl, ⟨body, behind, quote, written, colon⟩, hv, closing⟩, ha⟩
  · rintro ⟨key, ⟨start, value, mid, follows, ⟨body, behind, quote, written, colon⟩, hv, closing⟩,
      ha⟩
    cases follows
    exact ⟨a, behind, ⟨key, ⟨body, quote, written⟩, ha⟩, (), value, colon, (), mid, hv, closing,
      rfl⟩

theorem reads_choice (room : Nat) (known : List (String × α)) :
    Reads (choice room known) (Tree.choice? room known) := by
  intro cs
  refine exact_peekToken ?_
  cases first : dropBlanks cs with
  | nil => exact (refuses_fail _).spells_nil first
  | cons c more =>
    dsimp only [List.head?_cons]
    split
    · next h =>
      cases h
      refine (exact_knownName known).congr fun a rest => ?_
      rw [spells_text first, ← first]
      simp only [Tree.begins_dropBlanks, Tree.begins_quote first, Tree.text.injEq, exists_eq_left']
      rfl
    · next h =>
      cases h
      by_cases full : room = 0
      · rw [if_pos full]
        refine (refuses_failAhead _).spells first fun v opens => ?_
        obtain ⟨members, rfl⟩ := opens.eq_object
        unfold Tree.choice?
        split
        · next h => cases h
        · exact if_pos full
        · rfl
      · rw [if_neg full]
        refine (exact_skip (exact_nameAsKey known)).congr fun a rest => ?_
        rw [spells_object first]
        constructor
        · rintro ⟨key, hm, ha⟩
          exact ⟨[(key, .null)], hm, by simp [Tree.choice?, full, ha]⟩
        · rintro ⟨members, hm, ha⟩
          unfold Tree.choice? at ha
          split at ha
          · next h => cases h
          · next key h =>
            cases h
            exact ⟨key, hm, (if_neg full).symm.trans ha⟩
          · cases ha
    · next text object h =>
      cases h
      refine (refuses_failAhead _).spells first fun v opens => ?_
      cases v with
      | text => cases opens; exact (text rfl).elim
      | object => cases opens; exact (object rfl).elim
      | _ => rfl
    · next h => cases h

end

end Reader
end GrammarArtifact.Json
