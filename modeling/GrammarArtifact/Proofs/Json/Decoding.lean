import GrammarArtifact.Proofs.Json.Unique

/-! # What readers make of values

A typed reader reads a spelling of some value and makes something of the value. What it
makes is a function on trees, the decoder; which spelling stood there is of no
influence. `Reads` says both of a reader, with one lemma for every way to build one. -/

namespace GrammarArtifact.Json
variable {α β : Type} {cs rest : List Char}

/-! ## Decoders -/

namespace Tree

def text? : Tree → Option String
  | text marks => Mark.text? marks
  | _ => none

def boolean? : Tree → Option Bool
  | boolean b => some b
  | _ => none

def optional? (d : Tree → Option α) : Tree → Option (Option α)
  | null => some none
  | v => (d v).map some

/-- The items of a list that may be opened. -/
def list? (room : Nat) (d : Tree → Option α) : Tree → Option (List α)
  | list items => if room = 0 then none else items.mapM d
  | _ => none

/-- A member of an object, with the text of its key. -/
def member? (d : Tree → Option α) (m : List Mark × Tree) : Option (String × α) :=
  (Mark.text? m.1).bind fun key => (d m.2).map (key, ·)

/-- The entries of an object that may be opened. -/
def dictionary? (room : Nat) (d : Tree → Option α) : Tree → Option (List (String × α))
  | object members => if room = 0 then none else members.mapM (member? d)
  | _ => none

/-- A known name, alone or as the only key of an object. -/
def choice? (room : Nat) (known : List (String × α)) : Tree → Option α
  | text marks => (Mark.text? marks).bind (List.lookup · known)
  | object [(key, null)] => if room = 0 then none else (Mark.text? key).bind (List.lookup · known)
  | _ => none

/-- The text begins with a value of which the decoder makes this. -/
def Spells (d : Tree → Option α) (cs : List Char) (a : α) (rest : List Char) : Prop :=
  ∃ v : Tree, v.Begins cs rest ∧ d v = some a

end Tree

namespace Reader
open Json.Tree
variable {r : Reader α} {d : Tree → Option α}

/-- A reader reads just the values of which the decoder makes something, and gives that. -/
def Reads (r : Reader α) (d : Tree → Option α) : Prop := ∀ cs, Exact r cs (Spells d cs)

/-- A reader reads a whole text if it spells a value of which the decoder makes something. -/
theorem Reads.parse (h : Reads r d) {text : String} {a : α} :
    Reader.parse r text = .ok a ↔ ∃ v : Tree, v.Spelled text ∧ d v = some a := by
  have whole : Exact (document r) text.toList fun a rest => rest = [] ∧
      ∃ mid, Spells d text.toList a mid ∧ dropBlanks mid = [] := by
    refine ((h text.toList).bind (R := fun a mid b rest => b = a ∧ rest = [] ∧ dropBlanks mid = [])
      fun a mid _ => exact_peekToken ?_).congr fun a rest => ?_
    · cases first : dropBlanks mid with
      | nil => exact exact_pure.congr (by simp)
      | cons c more => exact (refuses_failAhead _).exact (by simp)
    · constructor
      · rintro ⟨_, mid, hs, rfl, rfl, blank⟩
        exact ⟨rfl, mid, hs, blank⟩
      · rintro ⟨rfl, mid, hs, blank⟩
        exact ⟨a, mid, hs, rfl, rfl, blank⟩
  have accepted : Reader.parse r text = .ok a ↔
      ∃ m, (document r).run ⟨text.toList, 0⟩ = .ok (a, ⟨[], m⟩) := by
    unfold Reader.parse
    cases run : (document r).run ⟨text.toList, 0⟩ with
    | error failure => simp
    | ok given =>
      obtain ⟨b, rest, m⟩ := given
      obtain ⟨rfl, _⟩ := (whole 0 b rest).mp ⟨m, run⟩
      simp [eq_comm]
  rw [accepted, whole 0 a []]
  constructor
  · rintro ⟨_, mid, ⟨v, hv, hd⟩, blank⟩
    exact ⟨v, ⟨mid, hv, blank⟩, hd⟩
  · rintro ⟨v, ⟨mid, hv, blank⟩, hd⟩
    exact ⟨rfl, mid, ⟨v, hv, hd⟩, blank⟩

/-- Where a text ends, no value begins. -/
theorem Refuses.spells_nil {mid : List Char} (h : Refuses r mid) (first : dropBlanks cs = []) :
    Exact r mid (Spells d cs) :=
  h.exact fun _ _ ⟨_, hv, _⟩ => not_begins_of_nil first hv

/-- The first character may tell that the decoder makes nothing of the value. -/
theorem Refuses.spells {mid more : List Char} {c : Char} (h : Refuses r mid)
    (first : dropBlanks cs = c :: more) (none : ∀ v : Tree, v.Opens c → d v = none) :
    Exact r mid (Spells d cs) := by
  refine h.exact fun a rest hs => ?_
  obtain ⟨v, hv, hd⟩ := hs
  rw [none v (hv.opens_of first)] at hd
  cases hd

section
variable {a : α} {more : List Char}

theorem spells_text (first : dropBlanks cs = '"' :: more) :
    Spells d cs a rest ↔ ∃ marks, Written marks more rest ∧ d (.text marks) = some a := by
  simp only [Spells, begins_quote first]
  exact ⟨fun ⟨_, ⟨marks, h, written⟩, hd⟩ => ⟨marks, written, h ▸ hd⟩,
    fun ⟨marks, written, hd⟩ => ⟨_, ⟨marks, rfl, written⟩, hd⟩⟩

theorem spells_list (first : dropBlanks cs = '[' :: more) :
    Spells d cs a rest ↔ ∃ items, ItemsBegin items true more rest ∧ d (.list items) = some a := by
  simp only [Spells, begins_bracket first]
  exact ⟨fun ⟨_, ⟨items, h, hi⟩, hd⟩ => ⟨items, hi, h ▸ hd⟩,
    fun ⟨items, hi, hd⟩ => ⟨_, ⟨items, rfl, hi⟩, hd⟩⟩

theorem spells_object (first : dropBlanks cs = '{' :: more) : Spells d cs a rest ↔
    ∃ members, MembersBegin members true more rest ∧ d (.object members) = some a := by
  simp only [Spells, begins_brace first]
  exact ⟨fun ⟨_, ⟨members, h, hm⟩, hd⟩ => ⟨members, hm, h ▸ hd⟩,
    fun ⟨members, hm, hd⟩ => ⟨_, ⟨members, rfl, hm⟩, hd⟩⟩

end

theorem Reads.map (h : Reads r d) (f : α → β) : Reads (do return f (← r)) fun v => (d v).map f := by
  intro cs
  refine (h cs).map.congr fun b rest => ?_
  constructor
  · rintro ⟨a, ⟨v, hv, hd⟩, rfl⟩
    exact ⟨v, hv, Option.map_eq_some_iff.mpr ⟨a, hd, rfl⟩⟩
  · rintro ⟨v, hv, hb⟩
    obtain ⟨a, hd, rfl⟩ := Option.map_eq_some_iff.mp hb
    exact ⟨a, ⟨v, hv, hd⟩, rfl⟩

theorem reads_failAhead (problem : Problem) :
    Reads (failAhead problem : Reader α) fun _ => none := by
  intro cs
  exact (refuses_failAhead problem).exact (by simp [Spells])

/-! ## Scalars -/

theorem reads_text (expected : String) : Reads (text expected) text? := by
  intro cs
  refine exact_peekToken ?_
  cases first : dropBlanks cs with
  | nil => exact (refuses_wrongKind _).spells_nil first
  | cons c more =>
    dsimp only [List.head?_cons]
    split
    · next h =>
      cases h
      exact exact_string.congr fun s rest => (spells_text (d := text?) first).symm
    · next other =>
      refine (refuses_wrongKind _).spells first fun v opens => ?_
      cases v with
      | text marks => cases opens; exact (other rfl).elim
      | _ => rfl

/-- A word that is the only spelling of a value. -/
theorem exact_word_value {v : Tree} {w more : List Char} {c : Char} {a : α}
    (first : dropBlanks cs = c :: more) (spelled : ∀ rest, v.Begins cs rest ↔
      dropBlanks cs = w ++ rest) (only : ∀ u : Tree, u.Opens c → u = v) (value : d v = some a) :
    Exact (do word w; return a) (c :: more) (Spells d cs) := by
  refine (exact_word w).bind (R := fun _ mid b rest => b = a ∧ rest = mid)
    (fun _ _ _ => exact_pure) |>.congr fun b rest => ?_
  simp only [Spells, begins_word first spelled only]
  constructor
  · rintro ⟨_, mid, h, rfl, rfl⟩
    exact ⟨v, ⟨rfl, h⟩, value⟩
  · rintro ⟨_, ⟨rfl, h⟩, hd⟩
    exact ⟨(), rest, h, Option.some.inj (hd.symm.trans value), rfl⟩

theorem reads_boolean : Reads boolean boolean? := by
  intro cs
  refine exact_peekToken ?_
  cases first : dropBlanks cs with
  | nil => exact (refuses_wrongKind _).spells_nil first
  | cons c more =>
    dsimp only [List.head?_cons]
    split
    · next h =>
      cases h
      exact exact_word_value first (fun _ => Iff.rfl) (fun _ => Opens.eq_true) rfl
    · next h =>
      cases h
      exact exact_word_value first (fun _ => Iff.rfl) (fun _ => Opens.eq_false) rfl
    · next noTrue noFalse =>
      refine (refuses_wrongKind _).spells first fun v opens => ?_
      cases v with
      | boolean b =>
        cases b with
        | true => cases opens; exact (noTrue rfl).elim
        | false => cases opens; exact (noFalse rfl).elim
      | _ => rfl

theorem reads_optional (h : Reads r d) : Reads (optional r) (optional? d) := by
  intro cs
  have value {c : Char} {more : List Char} (first : dropBlanks cs = c :: more) (notNull : c ≠ 'n') :
      Exact (do return some (← r)) (c :: more) (Spells (optional? d) cs) := by
    refine (h (c :: more)).map.congr fun a rest => ?_
    rw [← first]
    constructor
    · rintro ⟨a, ⟨v, hv, hd⟩, rfl⟩
      rw [begins_dropBlanks] at hv
      refine ⟨v, hv, ?_⟩
      cases v with
      | null => exact (notNull (hv.opens_of first)).elim
      | _ => simp [optional?, hd]
    · rintro ⟨v, hv, hd⟩
      cases v with
      | null => exact (notNull (hv.opens_of first)).elim
      | _ =>
        obtain ⟨a, ha, rfl⟩ := Option.map_eq_some_iff.mp hd
        exact ⟨a, ⟨_, begins_dropBlanks.mpr hv, ha⟩, rfl⟩
  refine exact_peekToken ?_
  cases first : dropBlanks cs with
  | nil =>
    have refused : Refuses r [] := (h []).congr fun a rest =>
      ⟨fun ⟨v, hv, _⟩ => not_begins_of_nil rfl hv, False.elim⟩
    exact refused.bind.spells_nil first
  | cons c more =>
    dsimp only [List.head?_cons]
    split
    · next h =>
      cases h
      exact exact_word_value first (fun _ => Iff.rfl) (fun _ => Opens.eq_null) rfl
    · next notNull => exact value first (by rintro rfl; exact notNull rfl)

/-! ## Brackets -/

/-- Closing a bracket: behind it the rest comes. -/
theorem exact_close (bracket : Bracket) :
    Exact (close bracket) cs fun _ rest => dropBlanks cs = bracket.closing :: rest := by
  refine exact_peekToken ?_
  cases first : dropBlanks cs with
  | nil => exact (Refuses.after fun _ _ => refuses_fail _).exact (by simp)
  | cons c more =>
    dsimp only [List.head?_cons]
    by_cases closing : c = bracket.closing
    · simp only [if_pos closing]
      intro n a rest
      have passed : Cursor.passClosing bracket ⟨c :: more, n⟩ = ⟨more, n + 1⟩ := by
        have still : afterBlanks (c :: more) n = ⟨c :: more, n⟩ := by
          simp [afterBlanks, not_isBlank_of_dropBlanks first]
        simp only [Cursor.passClosing, still, if_pos closing]
      have run : (modify (Cursor.passClosing bracket) >>= fun _ => pure () : Reader Unit).run
          ⟨c :: more, n⟩ = .ok ((), ⟨more, n + 1⟩) := congrArg (fun x => Except.ok ((), x)) passed
      constructor
      · rintro ⟨m, hm⟩
        cases run.symm.trans hm
        rw [closing]
      · intro h
        cases h
        exact ⟨n + 1, run⟩
    · simp only [if_neg closing]
      refine Refuses.exact (Refuses.after fun _ mid => ?_) fun _ _ h => closing (List.cons.inj h).1
      split
      · cases bracket with
        | object => exact refuses_failAhead _
        | list => exact Refuses.after fun _ _ => refuses_failAhead _
      · exact refuses_failAhead _

/-- A handler that fails leaves nothing but the successes. -/
theorem exact_tryCatch {f : α → Reader β} {handler : Failure → Reader α}
    {P : β → List Char → Prop}
    (fails : ∀ failure x, ∃ other, (handler failure).run x = .error other)
    (h : Exact (r >>= f) cs P) : Exact (tryCatch r handler >>= f) cs P := by
  intro n b rest
  rw [← h n b rest, run_bind, run_bind]
  have run : (tryCatch r handler : Reader α).run ⟨cs, n⟩ =
      tryCatch (r.run ⟨cs, n⟩) fun failure => (handler failure).run ⟨cs, n⟩ := rfl
  rw [run]
  cases r.run ⟨cs, n⟩ with
  | ok given => rfl
  | error failure =>
    obtain ⟨other, ho⟩ := fails failure ⟨cs, n⟩
    have caught : (tryCatch (.error failure) fun failure => (handler failure).run ⟨cs, n⟩ :
      Except Failure (α × Cursor)) = .error other := ho
    rw [caught]
    simp [Except.bind]

/-- The inside of a bracket and its end. -/
theorem exact_enclosed {room : Nat} {bracket : Bracket} {c : Char} {P : α → List Char → Prop}
    (h : Exact (do let value ← r; close bracket; return value) cs P) :
    Exact (enclosed room bracket r) (c :: cs) fun a rest => room ≠ 0 ∧ P a rest := by
  unfold enclosed
  by_cases full : room = 0
  · rw [if_pos full]
    exact (refuses_failAhead _).exact fun _ _ no => no.1 full
  · rw [if_neg full]
    refine (exact_skip (exact_tryCatch ?_ h)).congr fun a rest => (and_iff_right full).symm
    intro failure x
    cases failure with
    | placed problem offset => exact ⟨_, rfl⟩
    | unplaced problem noticed => exact ⟨_, rfl⟩

/-- Loops leave the end of their bracket where it is. -/
theorem exact_closed (bracket : Bracket) {P : α → List Char → Prop}
    (h : Exact r cs fun a mid => ∃ rest, mid = bracket.closing :: rest ∧ P a rest) :
    Exact (do let value ← r; close bracket; return value) cs P := by
  refine (h.bind fun a mid _ => (exact_close bracket).bind fun _ _ _ => exact_pure).congr
    fun a rest => ?_
  have solid (rest : List Char) :
      dropBlanks (bracket.closing :: rest) = bracket.closing :: rest := by
    cases bracket <;> exact dropBlanks_cons rfl rest
  constructor
  · rintro ⟨_, _, ⟨rest, rfl, hP⟩, _, _, h, rfl, rfl⟩
    cases (solid rest).symm.trans h
    exact hP
  · intro hP
    exact ⟨a, _, ⟨rest, rfl, hP⟩, (), rest, solid rest, rfl, rfl⟩

end Reader
end GrammarArtifact.Json
