import GrammarArtifact.Rule.Reader
import GrammarArtifact.Proofs.Json.Layout

/-! # What a rule is made of

The tree of a value says which rule it is, and the reader of rules reads just the trees
that are rules. Both go down into contents and members with the room that the brackets
around them leave. -/

namespace GrammarArtifact
open Json Json.Reader

/-! ## Values -/

/-- The value of a rule that a tree writes: a string or a level. -/
def RuleValue.ofTree? : Tree → Option RuleValue
  | .text marks => (Mark.text? marks).map .string
  | .number numeral =>
    (integer? numeral).bind fun n => if Rule.isLevel n then some (.integer n) else none
  | _ => none

/-- A numeral is a value of a rule if it is a level written with digits alone. -/
theorem RuleValue.ofTree?_number {numeral digits : List Char} {negative : Bool} {a : RuleValue}
    (h : integer? numeral =
      if digits.all Char.isDigit then wholeNumber? negative digits else none) :
    ofTree? (.number numeral) = some a ↔ ∃ n, digits.all Char.isDigit = true ∧
      wholeNumber? negative digits = some n ∧ Rule.isLevel n = true ∧ a = .integer n := by
  simp only [ofTree?, h, Option.bind_eq_some_iff, Option.ite_none_right_eq_some,
    Option.some.injEq, and_assoc, @eq_comm _ a]

namespace Rule
variable {cs : List Char}

def valueOf : Loose → Reader RuleValue
  | .text s => return .string s
  | .number (.whole n) => if isLevel n then return .integer n else failRecord (.noForm "RuleValue")
  | _ => failRecord (.noForm "RuleValue")

theorem readValue_eq (room : Nat) : readValue room = loose room >>= valueOf := rfl

theorem loose_eq (room : Nat) : ∃ inner, loose room = looseWith room inner := by
  cases room with
  | zero => exact ⟨_, rfl⟩
  | succ room => exact ⟨_, rfl⟩

/-- What is neither a string nor a number is no value of a rule, however it is read. -/
theorem refuses_other {α : Type} {r : Reader α} :
    Refuses ((do let _ ← r; return Loose.other) >>= valueOf) cs := by
  rw [bind_assoc]
  exact Refuses.after fun _ _ => refuses_failRecord _

/-- A numeral behind its sign is a value of a rule if it writes a level. -/
theorem exact_level (negative : Bool) : Exact ((do return Loose.number (← number negative)) >>=
    valueOf) cs fun a rest => ∃ digits n, cs = digits ++ rest ∧ digits.all Char.isDigit = true ∧
      IsUnsigned digits rest ∧ wholeNumber? negative digits = some n ∧ isLevel n = true ∧
      a = .integer n := by
  rw [bind_assoc]
  refine (exact_number negative (f := fun n => valueOf (.number n)) (Q := fun n mid a rest =>
    isLevel n = true ∧ a = .integer n ∧ rest = mid) (fun x mid => refuses_failRecord _)
    fun n mid => ?_).congr fun a rest => ?_
  · dsimp only [valueOf]
    by_cases level : isLevel n = true
    · rw [if_pos level]
      exact exact_pure.congr fun a rest => by simp [level]
    · rw [if_neg level]
      exact (refuses_failRecord _).exact fun a rest h => level h.1
  · constructor
    · rintro ⟨digits, _, n, taken, all, hu, value, level, rfl, rfl⟩
      exact ⟨digits, n, taken, all, hu, value, level, rfl⟩
    · rintro ⟨digits, n, taken, all, hu, value, level, rfl⟩
      exact ⟨digits, rest, n, taken, all, hu, value, level, rfl, rfl⟩

/-- The numeral that begins here is a level, whether or not a sign has been read of it. -/
theorem exact_levelValue {negative : Bool} {mid : List Char} {signed : List Char → List Char}
    (spelled : ∀ v rest, Tree.Begins v cs rest ↔
      ∃ digits, v = .number (signed digits) ∧ mid = digits ++ rest ∧ IsUnsigned digits rest)
    (value : ∀ {digits rest}, IsUnsigned digits rest → integer? (signed digits) =
      if digits.all Char.isDigit then wholeNumber? negative digits else none) :
    Exact ((do return Loose.number (← number negative)) >>= valueOf) mid
      (Tree.Spells RuleValue.ofTree? cs) := by
  refine (exact_level negative).congr fun a rest => ?_
  simp only [Tree.Spells, spelled]
  constructor
  · rintro ⟨digits, n, taken, all, hu, level⟩
    exact ⟨_, ⟨digits, rfl, taken, hu⟩,
      (RuleValue.ofTree?_number (value hu)).mpr ⟨n, all, level⟩⟩
  · rintro ⟨_, ⟨digits, rfl, taken, hu⟩, ha⟩
    obtain ⟨n, all, level⟩ := (RuleValue.ofTree?_number (value hu)).mp ha
    exact ⟨digits, n, taken, all, hu, level⟩

/-- A string is a value as it is. -/
theorem exact_textValue {more : List Char} (first : dropBlanks cs = '"' :: more) :
    Exact (string >>= fun s => valueOf (.text s)) ('"' :: more)
      (Tree.Spells RuleValue.ofTree? cs) := by
  refine (exact_string.bind fun s mid _ => exact_pure).congr fun a rest => ?_
  rw [spells_text first]
  constructor
  · rintro ⟨s, _, ⟨marks, written, hs⟩, rfl, rfl⟩
    exact ⟨marks, written, by simp [RuleValue.ofTree?, hs]⟩
  · rintro ⟨marks, written, ha⟩
    obtain ⟨s, hs, rfl⟩ := Option.map_eq_some_iff.mp ha
    exact ⟨s, rest, ⟨marks, written, hs⟩, rfl, rfl⟩

theorem reads_value (room : Nat) : Reads (readValue room) RuleValue.ofTree? := by
  intro cs
  obtain ⟨inner, loose⟩ := loose_eq room
  rw [readValue_eq, loose]
  unfold looseWith
  rw [bind_assoc]
  refine exact_peekToken ?_
  cases first : dropBlanks cs with
  | nil => exact (refuses_fail _).bind.spells_nil first
  | cons c more =>
    dsimp only [List.head?_cons]
    split
    · next h => cases h
    · next h =>
      cases h
      refine refuses_other.spells first fun v opens => ?_
      rw [opens.eq_null]
      rfl
    · next h =>
      cases h
      refine refuses_other.spells first fun v opens => ?_
      rw [opens.eq_true]
      rfl
    · next h =>
      cases h
      refine refuses_other.spells first fun v opens => ?_
      rw [opens.eq_false]
      rfl
    · next h =>
      cases h
      rw [bind_assoc]
      exact exact_skip (exact_levelValue (fun _ _ => Tree.begins_minus first)
        fun _ => integer?_minus)
    · next h =>
      cases h
      rw [bind_assoc]
      exact exact_textValue first
    · next h =>
      cases h
      refine refuses_other.spells first fun v opens => ?_
      obtain ⟨items, rfl⟩ := opens.eq_list
      rfl
    · next h =>
      cases h
      refine refuses_other.spells first fun v opens => ?_
      obtain ⟨members, rfl⟩ := opens.eq_object
      rfl
    · next c' _ _ _ minus text _ _ h =>
      cases h
      by_cases digit : c.isDigit = true
      · rw [if_pos digit]
        exact exact_levelValue (fun _ _ => Tree.begins_digit first digit) integer?_unsigned
      · rw [if_neg digit]
        refine (refuses_failAhead _).bind.spells first fun v opens => ?_
        cases v with
        | text => cases opens; exact (text rfl).elim
        | number => exact (opens.elim (fun h => minus h) digit).elim
        | _ => rfl

/-! ## Rules -/

/-- The properties of a rule, given what is made of its content and of one member. -/
def layout (room : Nat) (content member : Tree → Option Rule) : Layout Rule where
  blank := { type := .blank }
  properties := [
    ⟨"type", true, RuleType, Tree.choice? room (RuleType.all.map fun t => (t.name, t)),
      fun r x => { r with type := x }⟩,
    ⟨"value", false, Option RuleValue, Tree.optional? RuleValue.ofTree?,
      fun r x => { r with value := x }⟩,
    ⟨"name", false, Option String, Tree.optional? Tree.text?, fun r x => { r with name := x }⟩,
    ⟨"content", false, Option Rule, Tree.optional? content, fun r x => { r with content := x }⟩,
    ⟨"members", false, List Rule, Tree.list? room member, fun r x => { r with members := x }⟩,
    ⟨"named", false, Option Bool, Tree.optional? Tree.boolean?, fun r x => { r with named := x }⟩,
    ⟨"flags", false, Option String, Tree.optional? Tree.text?, fun r x => { r with flags := x }⟩,
    ⟨"context_name", false, Option String, Tree.optional? Tree.text?,
      fun r x => { r with contextName := x }⟩]

/-- The rule that a tree is, if `room` brackets may be open inside each other. -/
def ofTree? : (room : Nat) → Tree → Option Rule
  | 0 => (layout 0 (fun _ => none) (fun _ => none)).record? 0
  | 1 => (layout 0 (ofTree? 0) (ofTree? 0)).record? 1
  | room + 2 => (layout (room + 1) (ofTree? (room + 1)) (ofTree? room)).record? (room + 2)

theorem describes_form {room : Nat} {readContent readMember : Reader Rule}
    {content member : Tree → Option Rule} (hc : Reads readContent content)
    (hm : Reads readMember member) :
    (layout room content member).Describes (form room readContent readMember) := by
  have text : Reads optionalText (Tree.optional? Tree.text?) := reads_optional (reads_text _)
  exact ⟨.cons (.put (reads_choice room _)) <|
    .cons (.put (reads_optional (reads_value room))) <|
    .cons (.put text) <|
    .cons (.put (reads_optional hc)) <|
    .cons (.put (reads_list room hm)) <|
    .cons (.put (reads_optional reads_boolean)) <|
    .cons (.put text) <|
    .cons (.put text) .nil, rfl⟩

/-- **The reader of rules reads the trees that are rules.** -/
theorem reads_rule : (room : Nat) → Reads (read room) (ofTree? room)
  | 0 => reads_record 0 (describes_form (reads_failAhead _) (reads_failAhead _))
  | 1 => reads_record 1 (describes_form (reads_rule 0) (reads_rule 0))
  | room + 2 => reads_record (room + 2) (describes_form (reads_rule (room + 1)) (reads_rule room))

end Rule
end GrammarArtifact
