import GrammarArtifact.Proofs.Json.Layout
import GrammarArtifact.Proofs.Text.Plain

/-! # How readers fail

The message for a failure is that of its problem with a place behind it. The words of
nearly all problems are plain: numbers are, names of the format are, and strings of the
document are quoted. Only a name that is none of the known ones is shown as it is. A
reader is tame if it fails with no other problems than these; every composition of tame
readers is tame. -/

namespace GrammarArtifact.Json

def Failure.problem : Failure → Problem
  | .placed problem _ => problem
  | .unplaced problem _ => problem

/-- The message for a failure tells its place. -/
theorem Reader.report_eq (text : List Char) (failure : Failure) : ∃ here : Location,
    report text failure = failure.problem.message ++ here.suffix := by
  cases failure with
  | placed problem offset => exact ⟨_, rfl⟩
  | unplaced problem noticed => exact ⟨_, rfl⟩

namespace Problem

/-- The words are plain, save that a name of the document may be shown as it is. -/
def IsTame : Problem → Prop
  | .unknownName _ known => ∀ name ∈ known, IsPlain name
  | problem => IsPlain problem.message

/-- The problem is one of form, and its words are always the same. -/
def isBare : Problem → Bool
  | .wrongKind .. | .unknownName .. | .missingField .. | .repeatedField .. | .wrongLength ..
  | .noForm .. => false
  | _ => true

theorem isTame_of_isBare {problem : Problem} (bare : problem.isBare = true) : problem.IsTame := by
  cases problem with
  | wrongKind | unknownName | missingField | repeatedField | wrongLength | noForm => cases bare
  | _ =>
    unfold IsTame message
    decide

theorem isPlain_ticked {name : String} : IsPlain (ticked name) ↔ IsPlain name := by
  constructor
  · intro h
    exact (isPlain_append.mp (isPlain_append.mp h).1).2
  · intro h
    exact (IsPlain.append (by decide) h).append (by decide)

theorem isTame_wrongKind {found : Found} {expected : String} (hf : IsPlain found.describe)
    (he : IsPlain expected) : (wrongKind found expected).IsTame :=
  ((IsPlain.append (by decide) hf).append (by decide)).append he

theorem isTame_missingField {name : String} (h : IsPlain name) : (missingField name).IsTame :=
  .append (by decide) (isPlain_ticked.mpr h)

theorem isTame_repeatedField {name : String} (h : IsPlain name) : (repeatedField name).IsTame :=
  .append (by decide) (isPlain_ticked.mpr h)

theorem isTame_wrongLength {expected : String} (length : Nat) (h : IsPlain expected) :
    (wrongLength length expected).IsTame :=
  ((IsPlain.append (by decide) (isPlain_nat length)).append (by decide)).append h

theorem isTame_noForm {title : String} (h : IsPlain title) : (noForm title).IsTame :=
  .append (by decide) h

/-- The message of a tame problem is plain unless it shows a name that is not. -/
theorem IsTame.isPlain_message_iff {problem : Problem} (h : problem.IsTame) :
    IsPlain problem.message ↔ ∀ name known, problem = .unknownName name known → IsPlain name := by
  cases problem with
  | unknownName name known =>
    have names : IsPlain (String.intercalate ", " (known.map ticked)) := by
      refine isPlain_intercalate (by decide) fun s hs => ?_
      obtain ⟨name, known, rfl⟩ := List.mem_map.mp hs
      exact isPlain_ticked.mpr (h name known)
    constructor
    · intro plain name' known' same
      cases same
      have shown := (isPlain_append.mp (isPlain_append.mp (isPlain_append.mp plain).1).1).2
      exact isPlain_ticked.mp shown
    · intro plain
      have shown := isPlain_ticked.mpr (plain name known rfl)
      exact ((IsPlain.append (by decide) shown).append (by decide)).append names
  | _ => exact ⟨fun _ => nofun, fun _ => h⟩

end Problem

namespace Reader
variable {α β : Type} {r : Reader α} {problem : Problem}

/-- Whatever the text, the reader fails with tame problems only. -/
def Tame (r : Reader α) : Prop := ∀ x e, r.run x = .error e → e.problem.IsTame

/-! ## Composed readers -/

theorem tame_of_ok (h : ∀ x, ∃ given, r.run x = .ok given) : Tame r := by
  intro x e failed
  obtain ⟨given, run⟩ := h x
  rw [run] at failed
  cases failed

theorem tame_pure {a : α} : Tame (pure a) := tame_of_ok fun x => ⟨(a, x), rfl⟩

theorem tame_throw {failure : Failure} (h : failure.problem.IsTame) :
    Tame (throw failure : Reader α) := by
  intro x e failed
  cases failed
  exact h

/-- Only the values that the first reader may give count for the second. -/
theorem Tame.bindOnly {kind : α → Prop} {f : α → Reader β} (h : Tame r) (only : Only r kind)
    (hf : ∀ a, kind a → Tame (f a)) : Tame (r >>= f) := by
  intro x e failed
  rw [run_bind] at failed
  cases run : r.run x with
  | error e' =>
    rw [run] at failed
    cases failed
    exact h x e run
  | ok given =>
    rw [run] at failed
    exact hf given.1 (only x given.1 given.2 run) given.2 e failed

theorem Tame.bind {f : α → Reader β} (h : Tame r) (hf : ∀ a, Tame (f a)) : Tame (r >>= f) :=
  h.bindOnly (fun _ _ _ _ => trivial) fun a _ => hf a

theorem Tame.map {f : α → β} (h : Tame r) : Tame (do return f (← r)) := h.bind fun _ => tame_pure

theorem Tame.tryCatch {handler : Failure → Reader α} (h : Tame r)
    (handled : ∀ e, e.problem.IsTame → Tame (handler e)) : Tame (tryCatch r handler) := by
  intro x e failed
  have run : (MonadExcept.tryCatch r handler : Reader α).run x =
      MonadExcept.tryCatch (r.run x) fun failure => (handler failure).run x := rfl
  rw [run] at failed
  cases first : r.run x with
  | ok given =>
    rw [first] at failed
    cases failed
  | error e' =>
    rw [first] at failed
    exact handled e' (h x e' first) x e failed

theorem tame_get : Tame (get : Reader Cursor) := tame_of_ok fun x => ⟨(x, x), rfl⟩

theorem tame_set (here : Cursor) : Tame (set here : Reader PUnit) :=
  tame_of_ok fun _ => ⟨((), here), rfl⟩

theorem tame_modify (f : Cursor → Cursor) : Tame (modify f : Reader PUnit) :=
  tame_of_ok fun x => ⟨((), f x), rfl⟩

theorem tame_skip : Tame skip := tame_modify _

theorem tame_peek : Tame peek? := tame_get.map

theorem tame_peekToken : Tame peekToken? := (tame_modify _).bind fun _ => tame_peek

theorem tame_fail_of (h : problem.IsTame) : Tame (fail problem : Reader α) :=
  tame_get.bind fun _ => tame_throw h

theorem tame_failAhead_of (h : problem.IsTame) : Tame (failAhead problem : Reader α) :=
  tame_get.bind fun _ => tame_throw h

theorem tame_failRecord (h : problem.IsTame) : Tame (failRecord problem : Reader α) :=
  tame_get.bind fun _ => tame_throw h

theorem tame_fail (bare : problem.isBare = true) : Tame (fail problem : Reader α) :=
  tame_fail_of (Problem.isTame_of_isBare bare)

theorem tame_failAhead (bare : problem.isBare = true) : Tame (failAhead problem : Reader α) :=
  tame_failAhead_of (Problem.isTame_of_isBare bare)

/-! ## Strings -/

theorem tame_word (expected : List Char) : Tame (word expected) := by
  induction expected with
  | nil => exact tame_pure
  | cons c more ih =>
    rw [word]
    refine tame_peek.bind fun next => ?_
    split
    · exact tame_fail rfl
    · split
      · exact tame_skip.bind fun _ => ih
      · exact tame_failAhead rfl

theorem tame_hexEscape : Tame hexEscape := by
  unfold hexEscape
  refine tame_get.bind fun here => ?_
  dsimp only
  split
  · exact (tame_set _).bind fun _ => tame_pure
  · refine tame_throw ?_
    split <;> exact Problem.isTame_of_isBare rfl

theorem tame_pairPart (expected : Char) : Tame (pairPart expected) := by
  unfold pairPart
  refine tame_peek.bind fun next => ?_
  split
  · exact tame_fail rfl
  · split
    · exact tame_skip
    · exact tame_failAhead rfl

theorem tame_unicodeEscape : Tame unicodeEscape := by
  unfold unicodeEscape
  refine tame_hexEscape.bind fun high => ?_
  split
  · exact tame_fail rfl
  split
  · refine (tame_pairPart _).bind fun _ => (tame_pairPart _).bind fun _ =>
      tame_hexEscape.bind fun low => ?_
    split
    · exact tame_pure
    · exact tame_fail rfl
  · exact tame_pure

theorem tame_escape : Tame escape := by
  unfold escape
  refine tame_peek.bind fun next => ?_
  split
  · exact tame_fail rfl
  · exact tame_skip.bind fun _ => tame_unicodeEscape
  · split
    · exact tame_skip.bind fun _ => tame_pure
    · exact tame_failAhead rfl

theorem tame_stringRest (bound done : List Char) : Tame (stringRest bound done) := by
  induction bound generalizing done with
  | nil => exact tame_fail rfl
  | cons _ bound ih =>
    rw [stringRest]
    refine tame_peek.bind fun next => ?_
    split
    · exact tame_fail rfl
    · exact tame_skip.bind fun _ => tame_pure
    · exact tame_skip.bind fun _ => tame_escape.bind fun _ => ih _
    · refine tame_skip.bind fun _ => ?_
      split
      · exact tame_fail rfl
      · exact ih _

theorem tame_string : Tame string :=
  tame_skip.bind fun _ => tame_get.bind fun _ => tame_stringRest _ _

/-! ## Numbers -/

theorem tame_digits : Tame digits := tame_of_ok fun _ => ⟨_, rfl⟩

theorem tame_wholePart {atEnd : Problem} (bare : atEnd.isBare = true) :
    Tame (wholePart atEnd) := by
  unfold wholePart
  refine tame_peek.bind fun next => ?_
  split
  · exact tame_fail bare
  · refine tame_skip.bind fun _ => tame_peek.bind fun next => ?_
    split
    · split
      · exact tame_failAhead rfl
      · exact tame_pure
    · exact tame_pure
  · split
    · exact tame_digits
    · exact tame_failAhead rfl

theorem tame_exponentSign : Tame exponentSign := by
  unfold exponentSign
  refine tame_peek.bind fun next => ?_
  split
  · exact tame_skip.bind fun _ => tame_pure
  · exact tame_skip.bind fun _ => tame_pure
  · exact tame_pure

theorem tame_exponentNext : Tame exponentNext := tame_peek.map

theorem tame_exponentPart (negative : Bool) (start : Number.Scaled) :
    Tame (exponentPart negative start) := by
  unfold exponentPart
  refine tame_skip.bind fun _ => tame_exponentSign.bind fun down => tame_get.bind fun here =>
    tame_peek.bind fun next => ?_
  extract_lets value
  have tame : ∀ taken, Tame (value taken) := by
    intro taken
    refine tame_digits.bind fun ds => ?_
    split
    · dsimp only
      split
      · exact tame_pure
      · exact tame_fail rfl
    · split
      · exact tame_throw (Problem.isTame_of_isBare rfl)
      · exact tame_pure
  split
  · exact (tame_fail rfl).bind tame
  · split
    · exact tame ()
    · exact (tame_failAhead rfl).bind tame

theorem tame_doubleRest (negative : Bool) (start : Number.Scaled) :
    Tame (doubleRest negative start) := by
  unfold doubleRest
  refine tame_exponentNext.bind fun more => ?_
  split
  · exact tame_exponentPart _ _
  · split
    · exact tame_pure
    · exact tame_fail rfl

theorem tame_number (negative : Bool) : Tame (number negative) := by
  unfold number
  refine (tame_wholePart rfl).bind fun ds => tame_peek.bind fun next => ?_
  split
  · refine tame_skip.bind fun _ => tame_digits.bind fun fraction => ?_
    split
    · refine tame_peek.bind fun next => ?_
      split
      · exact tame_fail rfl
      · exact tame_failAhead rfl
    · exact tame_doubleRest _ _
  · refine tame_exponentNext.bind fun more => ?_
    split
    · exact tame_pure
    · exact tame_doubleRest _ _

/-- How messages speak of a number is plain. -/
theorem isPlain_found (n : Number) : IsPlain n.found.describe := by
  cases n with
  | whole n => exact (IsPlain.append (by decide) (isPlain_int n)).append (by decide)
  | double x =>
    exact (IsPlain.append (by decide) (Decimal.isPlain_ofFloat x)).append (by decide)

theorem tame_skipNumber : Tame skipNumber := by
  unfold skipNumber
  refine (tame_wholePart rfl).bind fun _ => tame_peek.bind fun next => ?_
  extract_lets exponent
  have tame : ∀ fraction, Tame (exponent fraction) := by
    refine fun _ => tame_exponentNext.bind fun more => ?_
    split
    · refine tame_skip.bind fun _ => tame_exponentSign.bind fun _ => tame_peek.bind fun next => ?_
      split
      · exact tame_digits.bind fun _ => tame_pure
      · exact tame_failAhead rfl
    · exact tame_pure
  split
  · refine tame_skip.bind fun _ => tame_digits.bind fun fraction => ?_
    split
    · exact (tame_failAhead rfl).bind tame
    · exact tame ()
  · exact tame ()

/-! ## Passing over values -/

theorem tame_skipEscape : Tame skipEscape := by
  unfold skipEscape
  refine tame_peek.bind fun next => ?_
  split
  · exact tame_fail rfl
  · exact tame_skip.bind fun _ => tame_hexEscape.bind fun _ => tame_pure
  · split
    · exact tame_skip
    · exact tame_failAhead rfl

theorem tame_skipStringRest (bound : List Char) : Tame (skipStringRest bound) := by
  induction bound with
  | nil => exact tame_fail rfl
  | cons _ bound ih =>
    rw [skipStringRest]
    refine tame_peek.bind fun next => ?_
    split
    · exact tame_fail rfl
    · exact tame_skip
    · exact tame_skip.bind fun _ => tame_skipEscape.bind fun _ => ih
    · split
      · exact tame_fail rfl
      · exact tame_skip.bind fun _ => ih

theorem tame_skipString : Tame skipString :=
  tame_skip.bind fun _ => tame_get.bind fun _ => tame_skipStringRest _

theorem tame_colon : Tame colon := by
  unfold colon
  refine tame_peekToken.bind fun next => ?_
  split
  · exact tame_skip
  · exact tame_failAhead rfl
  · exact tame_fail rfl

theorem tame_skipStart : Tame skipStart := by
  unfold skipStart
  refine tame_peekToken.bind fun next => ?_
  split
  · exact tame_fail rfl
  · exact tame_skip.bind fun _ => tame_pure
  · exact tame_skip.bind fun _ => tame_pure
  · exact tame_skipString.bind fun _ => tame_pure
  · exact (tame_word _).bind fun _ => tame_pure
  · exact (tame_word _).bind fun _ => tame_pure
  · exact (tame_word _).bind fun _ => tame_pure
  · exact tame_skip.bind fun _ => tame_skipNumber.bind fun _ => tame_pure
  · split
    · exact tame_skipNumber.bind fun _ => tame_pure
    · exact tame_failAhead rfl

theorem tame_skipKey : Tame skipKey := by
  unfold skipKey
  refine tame_peekToken.bind fun next => ?_
  split
  · exact tame_skipString.bind fun _ => tame_colon
  · exact tame_failAhead rfl
  · exact tame_fail rfl

theorem tame_unclosed (bracket : Bracket) : Tame (fail bracket.unclosed : Reader α) := by
  cases bracket <;> exact tame_fail rfl

theorem tame_skipOpened (bound : List Char) (fresh : Bool) (opened : List Bracket) :
    Tame (skipOpened bound fresh opened) := by
  induction bound generalizing fresh opened with
  | nil =>
    cases opened with
    | nil => exact tame_pure
    | cons bracket outer => exact tame_unclosed bracket
  | cons _ bound ih =>
    cases opened with
    | nil => exact tame_pure
    | cons bracket outer =>
      rw [skipOpened]
      refine tame_peekToken.bind fun next => ?_
      split
      · exact tame_unclosed bracket
      · split
        · exact tame_skip.bind fun _ => ih _ _
        · extract_lets member separated
          have tameMember : ∀ key, Tame (member key) := by
            refine fun _ => tame_skipStart.bind fun opened => ?_
            split
            · exact ih _ _
            · exact ih _ _
          have tame : ∀ comma, Tame (separated comma) := by
            intro comma
            dsimp only [separated]
            split
            · exact tame_skipKey.bind tameMember
            · exact tameMember ()
          split
          · split
            · exact tame_skip.bind tame
            · refine Tame.bind ?_ tame
              cases bracket <;> exact tame_failAhead rfl
          · exact tame ()

theorem tame_skipValue : Tame skipValue := by
  unfold skipValue
  refine tame_skipStart.bind fun opened => ?_
  split
  · exact tame_pure
  · exact tame_get.bind fun _ => tame_skipOpened _ _ _

/-! ## Values -/

theorem tame_close (bracket : Bracket) : Tame (close bracket) := by
  unfold close
  refine tame_peekToken.bind fun next => (tame_modify _).bind fun _ => ?_
  split
  · exact tame_unclosed bracket
  · split
    · exact tame_pure
    · split
      · cases bracket with
        | object => exact tame_failAhead rfl
        | list =>
          refine tame_peek.bind fun next => tame_failAhead ?_
          split <;> rfl
      · exact tame_failAhead rfl

theorem Tame.enclosed {room : Nat} {bracket : Bracket} (h : Tame r) :
    Tame (enclosed room bracket r) := by
  unfold Reader.enclosed
  split
  · exact tame_failAhead rfl
  · refine tame_skip.bind fun _ => Tame.bind (h.tryCatch fun e tame => ?_) fun value =>
      (tame_close bracket).bind fun _ => tame_pure
    cases e with
    | placed problem offset => exact tame_throw tame
    | unplaced problem noticed => exact tame_throw tame

theorem tame_found : Tame found := by
  unfold found
  refine tame_peek.bind fun next => ?_
  split
  · exact (tame_word _).bind fun _ => tame_pure
  · exact (tame_word _).bind fun _ => tame_pure
  · exact (tame_word _).bind fun _ => tame_pure
  · exact tame_skip.bind fun _ => (tame_number _).map
  · exact tame_string.map
  · exact tame_pure
  · exact tame_pure
  · split
    · exact (tame_number _).map
    · exact tame_failAhead rfl
  · exact tame_fail rfl

/-- Whatever is found, the words for it are plain. -/
theorem only_found : Only found fun found => IsPlain found.describe := by
  unfold found
  refine Only.after fun next => ?_
  split
  · exact Only.after fun _ => only_pure (by decide)
  · exact Only.after fun _ => only_pure (by decide)
  · exact Only.after fun _ => only_pure (by decide)
  · exact Only.after fun _ => Only.after fun n => only_pure (isPlain_found n)
  · exact Only.after fun s => only_pure (IsPlain.append (by decide) (isPlain_quoted s))
  · exact only_pure (by decide)
  · exact only_pure (by decide)
  · split
    · exact Only.after fun n => only_pure (isPlain_found n)
    · exact only_failAhead _
  · exact only_fail _

theorem tame_wrongKind {expected : String} (plain : IsPlain expected) :
    Tame (wrongKind expected : Reader α) :=
  tame_found.bindOnly only_found fun _ described =>
    tame_fail_of (Problem.isTame_wrongKind described plain)

theorem tame_text {expected : String} (plain : IsPlain expected) : Tame (text expected) := by
  unfold text
  refine tame_peekToken.bind fun next => ?_
  split
  · exact tame_string
  · exact tame_wrongKind plain

theorem tame_boolean : Tame boolean := by
  unfold boolean
  refine tame_peekToken.bind fun next => ?_
  split
  · exact (tame_word _).bind fun _ => tame_pure
  · exact (tame_word _).bind fun _ => tame_pure
  · exact tame_wrongKind (by decide)

theorem Tame.optional (h : Tame r) : Tame (optional r) := by
  unfold Reader.optional
  refine tame_peekToken.bind fun next => ?_
  split
  · exact (tame_word _).bind fun _ => tame_pure
  · exact h.map

theorem tame_optionalText : Tame optionalText := (tame_text (by decide)).optional

/-! ## Lists and maps -/

theorem tame_nextElement (first : Bool) : Tame (nextElement first) := by
  unfold nextElement
  refine tame_peekToken.bind fun next => ?_
  split
  · exact tame_fail rfl
  · exact tame_pure
  · split
    · exact tame_pure
    split
    · refine tame_skip.bind fun _ => tame_peekToken.bind fun next => ?_
      split
      · exact tame_fail rfl
      · exact tame_failAhead rfl
      · exact tame_pure
    · exact tame_failAhead rfl

theorem Tame.elements (h : Tame r) (bound : List Char) (first : Bool) (done : List α) :
    Tame (elements r bound first done) := by
  induction bound generalizing first done with
  | nil => exact tame_fail rfl
  | cons _ bound ih =>
    rw [Reader.elements]
    refine (tame_nextElement first).bind fun more => ?_
    split
    · exact h.bind fun _ => ih _ _
    · exact tame_pure

theorem Tame.list {room : Nat} (h : Tame r) : Tame (list room r) := by
  unfold Reader.list
  refine tame_peekToken.bind fun next => ?_
  split
  · exact Tame.enclosed (tame_get.bind fun _ => h.elements _ _ _)
  · exact tame_wrongKind (by decide)

theorem tame_nextKey (first : Bool) : Tame (nextKey first) := by
  unfold nextKey
  refine tame_peekToken.bind fun next => ?_
  split
  · exact tame_fail rfl
  · exact tame_pure
  · split
    · split
      · exact tame_pure
      · exact tame_failAhead rfl
    split
    · refine tame_skip.bind fun _ => tame_peekToken.bind fun next => ?_
      split
      · exact tame_fail rfl
      · exact tame_pure
      · exact tame_failAhead rfl
      · exact tame_failAhead rfl
    · exact tame_failAhead rfl

theorem Tame.entries (h : Tame r) (bound : List Char) (first : Bool) (done : List (String × α)) :
    Tame (entries r bound first done) := by
  induction bound generalizing first done with
  | nil => exact tame_fail rfl
  | cons _ bound ih =>
    rw [Reader.entries]
    refine (tame_nextKey first).bind fun more => ?_
    split
    · exact tame_string.bind fun _ => tame_colon.bind fun _ => h.bind fun _ => ih _ _
    · exact tame_pure

theorem Tame.dictionary {room : Nat} (h : Tame r) : Tame (dictionary room r) := by
  unfold Reader.dictionary
  refine tame_peekToken.bind fun next => ?_
  split
  · exact Tame.enclosed (tame_get.bind fun _ => h.entries _ _ _)
  · exact tame_wrongKind (by decide)

/-! ## Names and loose values -/

theorem tame_knownName {known : List (String × α)} (plain : ∀ e ∈ known, IsPlain e.1) :
    Tame (knownName known) := by
  unfold knownName
  refine (tame_text (by decide)).bind fun name => ?_
  split
  · exact tame_pure
  · exact tame_fail_of (List.forall_mem_map.mpr plain)

theorem tame_nothing : Tame nothing := by
  unfold nothing
  refine tame_peekToken.bind fun next => ?_
  split
  · exact tame_word _
  · exact tame_wrongKind (by decide)

theorem tame_choice {room : Nat} {known : List (String × α)} (plain : ∀ e ∈ known, IsPlain e.1) :
    Tame (choice room known) := by
  unfold choice
  refine tame_peekToken.bind fun next => ?_
  split
  · exact tame_knownName plain
  · split
    · exact tame_failAhead rfl
    · refine tame_skip.bind fun _ => (tame_knownName plain).bind fun value =>
        tame_colon.bind fun _ => tame_nothing.bind fun _ => tame_peekToken.bind fun next => ?_
      split
      · exact tame_skip.bind fun _ => tame_pure
      · exact tame_fail rfl
      · exact tame_fail rfl
  · exact tame_failAhead rfl
  · exact tame_fail rfl

theorem tame_looseWith {room : Nat} {inner : Reader Loose} (h : Tame inner) :
    Tame (looseWith room inner) := by
  unfold looseWith
  refine tame_peekToken.bind fun next => ?_
  split
  · exact tame_fail rfl
  · exact (tame_word _).bind fun _ => tame_pure
  · exact (tame_word _).bind fun _ => tame_pure
  · exact (tame_word _).bind fun _ => tame_pure
  · exact tame_skip.bind fun _ => (tame_number _).map
  · exact tame_string.map
  · exact (Tame.enclosed (tame_get.bind fun _ => h.elements _ _ _)).bind fun _ => tame_pure
  · exact (Tame.enclosed (tame_get.bind fun _ => h.entries _ _ _)).bind fun _ => tame_pure
  · split
    · exact (tame_number _).map
    · exact tame_failAhead rfl

theorem tame_loose (room : Nat) : Tame (loose room) := by
  induction room with
  | zero => exact tame_looseWith (tame_failAhead rfl)
  | succ room ih => exact tame_looseWith ih

end Reader

/-! ## Records -/

/-- The name of the field is plain, and its value is read by a tame reader. -/
structure Field.IsTame {α : Type} (field : Field α) : Prop where
  name : IsPlain field.name
  reads : ∀ a, (field.read a).Tame

/-- A field that reads a value and puts it into its place. -/
theorem Field.IsTame.put {α β : Type} {name : String} {required : Bool} {r : Reader β}
    {put : α → β → α} (plain : IsPlain name) (h : r.Tame) :
    Field.IsTame ⟨name, required, fun a => do return put a (← r)⟩ :=
  ⟨plain, fun _ => h.map⟩

/-- The title of the form is plain, and its fields are tame. -/
structure RecordForm.IsTame {α : Type} (form : RecordForm α) : Prop where
  title : IsPlain form.title
  fields : ∀ field ∈ form.fields, field.IsTame

theorem RecordForm.IsTame.extent {α : Type} {form : RecordForm α} (h : form.IsTame) :
    IsPlain form.extent :=
  h.title.append ((IsPlain.append (by decide) (isPlain_nat _)).append (by decide))

namespace Reader
variable {α : Type} {r : Reader α} {form : RecordForm α}

theorem tame_values {extent : String} (plain : IsPlain extent) {fields : List (Field α)}
    (tame : ∀ field ∈ fields, field.IsTame) (place : Nat) (record : α) :
    Tame (values extent fields place record) := by
  induction fields generalizing place record with
  | nil => exact tame_pure
  | cons field fields ih =>
    obtain ⟨here, others⟩ := List.forall_mem_cons.mp tame
    rw [values]
    refine (tame_nextElement _).bind fun more => ?_
    split
    · exact (here.reads record).bind fun _ => ih others _ _
    · split
      · exact tame_failRecord (Problem.isTame_wrongLength place plain)
      · exact ih others _ _

theorem tame_members (h : form.IsTame) (bound : List Char) (first : Bool) (seen : List String)
    (record : α) : Tame (members form.fields bound first seen record) := by
  induction bound generalizing first seen record with
  | nil => exact tame_fail rfl
  | cons _ bound ih =>
    rw [members]
    refine (tame_nextKey first).bind fun more => ?_
    split
    · refine tame_string.bind fun key => ?_
      split
      · exact tame_colon.bind fun _ => tame_skipValue.bind fun _ => ih _ _ _
      · next field found =>
        have listed := List.mem_of_find?_eq_some found
        split
        · have same : field.name = key := by simpa using List.find?_some found
          have plain : IsPlain key := same ▸ (h.fields field listed).name
          exact tame_failRecord (Problem.isTame_repeatedField plain)
        · have value := (h.fields field listed).reads record
          exact tame_colon.bind fun _ => value.bind fun _ => ih _ _ _
    · exact tame_pure

theorem tame_fields (h : form.IsTame) : Tame (fields form) := by
  unfold fields
  refine tame_get.bind fun here => (tame_members h _ _ _ _).bind fun given => ?_
  split
  split
  · exact tame_pure
  · next field lacking =>
    have plain := (h.fields field (List.mem_of_find?_eq_some lacking)).name
    exact tame_failRecord (Problem.isTame_missingField plain)

/-- **A record is read by a tame reader if its form is tame.** -/
theorem tame_record {room : Nat} (h : form.IsTame) : Tame (record room form) := by
  unfold record
  refine tame_peekToken.bind fun next => ?_
  split
  · exact Tame.enclosed (tame_values h.extent h.fields _ _)
  · exact Tame.enclosed (tame_fields h)
  · exact tame_wrongKind h.title

/-! ## Whole texts -/

theorem Tame.document (h : Tame r) : Tame (document r) := by
  unfold Reader.document
  refine h.bind fun value => tame_peekToken.bind fun next => ?_
  split
  · exact tame_pure
  · exact tame_failAhead rfl

/-- **The message for a text that is refused is that of a tame problem and a place.** -/
theorem Tame.message (h : Tame r) {text message : String}
    (refused : parse r text = .error message) :
    ∃ (problem : Problem) (here : Location), problem.IsTame ∧
      message = problem.message ++ here.suffix := by
  unfold parse at refused
  split at refused
  · cases refused
  · next failure failed =>
    cases refused
    obtain ⟨here, text⟩ := report_eq text.toList failure
    exact ⟨failure.problem, here, h.document _ failure failed, text⟩

end Reader
end GrammarArtifact.Json
