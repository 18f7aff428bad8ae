import Mathlib.Data.List.DropRight
import Mathlib.Data.List.TakeWhile
import GrammarArtifact.Json.Record

/-! # What a reader gives

A reader that succeeds gives a value and leaves a rest of the text. Both depend on the
text alone: the number of bytes before it enters only places of failures. `Exact` says
all of this about one text, and there is one lemma for each way in which readers are
composed. A step that cannot fail, such as passing over blanks, is taken by moving on
to the text behind it. -/

namespace GrammarArtifact.Json

def dropBlanks (cs : List Char) : List Char := cs.dropWhile Reader.isBlank

theorem dropBlanks_blank {c : Char} (h : Reader.isBlank c = true) (cs : List Char) :
    dropBlanks (c :: cs) = dropBlanks cs := by
  simp [dropBlanks, h]

theorem dropBlanks_cons {c : Char} (h : Reader.isBlank c = false) (cs : List Char) :
    dropBlanks (c :: cs) = c :: cs := by
  simp [dropBlanks, h]

@[simp] theorem dropBlanks_dropBlanks (cs : List Char) :
    dropBlanks (dropBlanks cs) = dropBlanks cs :=
  List.dropWhile_idempotent _ _

theorem length_dropBlanks_le (cs : List Char) : (dropBlanks cs).length ≤ cs.length :=
  (List.dropWhile_suffix _).length_le

theorem dropBlanks_eq_nil {cs : List Char} :
    dropBlanks cs = [] ↔ ∀ c ∈ cs, Reader.isBlank c = true := by
  simp [dropBlanks, List.dropWhile_eq_nil_iff]

/-- What comes first behind the blanks is no blank. -/
theorem not_isBlank_of_dropBlanks {cs rest : List Char} {c : Char}
    (h : dropBlanks cs = c :: rest) : Reader.isBlank c = false := by
  have := List.head_dropWhile_not Reader.isBlank (l := cs) (by unfold dropBlanks at h; simp [h])
  unfold dropBlanks at h
  simpa [h] using this

namespace Reader
variable {α β : Type} {r : Reader α} {cs : List Char} {P Q : α → List Char → Prop}

/-- On this text a reader gives just the values, and leaves just the rests, that `P` says, wherever
the text stands in a document. -/
def Exact (r : Reader α) (cs : List Char) (P : α → List Char → Prop) : Prop :=
  ∀ n a rest, (∃ m, r.run ⟨cs, n⟩ = .ok (a, ⟨rest, m⟩)) ↔ P a rest

theorem Exact.congr (h : Exact r cs P) (same : ∀ a rest, P a rest ↔ Q a rest) : Exact r cs Q :=
  fun n a rest => (h n a rest).trans (same a rest)

/-! ## Composed readers -/

theorem run_bind (r : Reader α) (f : α → Reader β) (x : Cursor) :
    (r >>= f).run x = (r.run x).bind fun given => (f given.1).run given.2 := rfl

theorem exact_pure {a : α} : Exact (pure a) cs fun b rest => b = a ∧ rest = cs := by
  intro n b rest
  constructor
  · rintro ⟨m, hm⟩
    cases hm
    exact ⟨rfl, rfl⟩
  · rintro ⟨rfl, rfl⟩
    exact ⟨n, rfl⟩

theorem Exact.bind {f : α → Reader β} {R : α → List Char → β → List Char → Prop}
    (h : Exact r cs P) (hf : ∀ a mid, P a mid → Exact (f a) mid (R a mid)) :
    Exact (r >>= f) cs fun b rest => ∃ a mid, P a mid ∧ R a mid b rest := by
  intro n b rest
  rw [run_bind]
  constructor
  · rintro ⟨m, hm⟩
    cases hr : r.run ⟨cs, n⟩ with
    | error e => rw [hr] at hm; cases hm
    | ok given =>
      obtain ⟨a, mid, k⟩ := given
      rw [hr] at hm
      have hP : P a mid := (h n a mid).mp ⟨k, hr⟩
      exact ⟨a, mid, hP, (hf a mid hP k b rest).mp ⟨m, hm⟩⟩
  · rintro ⟨a, mid, hP, hR⟩
    obtain ⟨k, hk⟩ := (h n a mid).mpr hP
    obtain ⟨m, hm⟩ := (hf a mid hP k b rest).mpr hR
    exact ⟨m, by rw [hk]; exact hm⟩

theorem Exact.map {f : α → β} (h : Exact r cs P) :
    Exact (do return f (← r)) cs fun b rest => ∃ a, P a rest ∧ b = f a := by
  refine (h.bind fun a mid _ => exact_pure).congr ?_
  intro b rest
  constructor
  · rintro ⟨a, mid, hP, rfl, rfl⟩
    exact ⟨a, hP, rfl⟩
  · rintro ⟨a, hP, rfl⟩
    exact ⟨a, rest, hP, rfl, rfl⟩

/-- A reader never succeeds on this text. -/
def Refuses (r : Reader α) (cs : List Char) : Prop := Exact r cs fun _ _ => False

theorem refuses_fail (problem : Problem) : Refuses (fail problem : Reader α) cs := by
  intro n a rest
  constructor
  · rintro ⟨m, hm⟩
    cases hm
  · exact False.elim

theorem refuses_failAhead (problem : Problem) : Refuses (failAhead problem : Reader α) cs := by
  intro n a rest
  constructor
  · rintro ⟨m, hm⟩
    cases hm
  · exact False.elim

theorem refuses_failRecord (problem : Problem) : Refuses (failRecord problem : Reader α) cs := by
  intro n a rest
  constructor
  · rintro ⟨m, hm⟩
    cases hm
  · exact False.elim

/-- A reader that refuses a text is exact there for whatever says nothing of it. -/
theorem Refuses.exact (h : Refuses r cs) (none : ∀ a rest, ¬ P a rest) : Exact r cs P :=
  h.congr fun a rest => ⟨False.elim, none a rest⟩

/-! ## Values of a kind -/

/-- Whatever value a reader gives, on any text, is of this kind. -/
def Only (r : Reader α) (kind : α → Prop) : Prop := ∀ x a y, r.run x = .ok (a, y) → kind a

section
variable {kind : α → Prop}

theorem only_pure {a : α} (h : kind a) : Only (pure a) kind := by
  intro x b y hb
  cases hb
  exact h

theorem only_fail (problem : Problem) : Only (fail problem) kind := nofun

theorem only_failAhead (problem : Problem) : Only (failAhead problem) kind := nofun

theorem Only.after {r : Reader β} {f : β → Reader α} (h : ∀ b, Only (f b) kind) :
    Only (r >>= f) kind := by
  intro x a y run
  rw [run_bind] at run
  cases hr : r.run x with
  | error e => rw [hr] at run; cases run
  | ok given =>
    rw [hr] at run
    exact h _ _ _ _ run

/-- Where the values of a kind are refused, a reader that gives no others leads nowhere. -/
theorem Only.refuses {f : α → Reader β} (h : Only r kind)
    (hf : ∀ a, kind a → ∀ mid, Refuses (f a) mid) : Refuses (r >>= f) cs := by
  intro n b rest
  rw [run_bind]
  constructor
  · rintro ⟨m, hm⟩
    cases hr : r.run ⟨cs, n⟩ with
    | error e => rw [hr] at hm; cases hm
    | ok given =>
      obtain ⟨a, mid, k⟩ := given
      rw [hr] at hm
      exact (hf a (h _ _ _ hr) mid k b rest).mp ⟨m, hm⟩
  · exact False.elim

end

/-- Whatever comes before, a refusal is one. -/
theorem Refuses.after {f : α → Reader β} (hf : ∀ a mid, Refuses (f a) mid) :
    Refuses (r >>= f) cs :=
  Only.refuses (fun _ _ _ _ => trivial) fun a _ => hf a

theorem Refuses.bind {f : α → Reader β} (h : Refuses r cs) : Refuses (r >>= f) cs :=
  (Exact.bind (R := fun _ _ _ _ => False) h fun _ _ none => none.elim).congr (by simp)

theorem refuses_wrongKind (expected : String) : Refuses (wrongKind expected : Reader α) cs :=
  Refuses.after fun _ _ => refuses_fail _

/-! ## Steps that cannot fail -/

theorem rest_afterBlanks (cs : List Char) (n : Nat) : (afterBlanks cs n).rest = dropBlanks cs := by
  induction cs generalizing n with
  | nil => rfl
  | cons c cs ih =>
    by_cases h : isBlank c = true
    · simp [afterBlanks, h, ih, dropBlanks_blank]
    · simp [afterBlanks, h, dropBlanks_cons]

theorem exact_peek {f : Option Char → Reader α} (h : Exact (f cs.head?) cs P) :
    Exact (peek? >>= f) cs P := h

theorem exact_peekToken {f : Option Char → Reader α}
    (h : Exact (f (dropBlanks cs).head?) (dropBlanks cs) P) : Exact (peekToken? >>= f) cs P := by
  intro n a rest
  have run : (peekToken? >>= f).run ⟨cs, n⟩ =
      (f (dropBlanks cs).head?).run ⟨dropBlanks cs, (afterBlanks cs n).offset⟩ := by
    rw [← rest_afterBlanks cs n]
    rfl
  rw [run]
  exact h _ a rest

theorem exact_skip {f : Unit → Reader α} {c : Char} (h : Exact (f ()) cs P) :
    Exact (skip >>= f) (c :: cs) P :=
  fun n => h (n + c.utf8Size)

theorem exact_skip_only {c : Char} : Exact skip (c :: cs) fun _ rest => rest = cs := by
  intro n a rest
  constructor
  · rintro ⟨m, hm⟩
    cases hm
    rfl
  · rintro rfl
    exact ⟨n + c.utf8Size, rfl⟩

/-- A loop takes the text that is left as its bound. -/
theorem exact_get {f : Cursor → Reader α} (h : ∀ n, Exact (f ⟨cs, n⟩) cs P) :
    Exact (get >>= f) cs P :=
  fun n => h n n

end Reader
end GrammarArtifact.Json
