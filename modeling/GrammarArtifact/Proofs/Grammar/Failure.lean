import GrammarArtifact.Grammar.Reader
import GrammarArtifact.Proofs.Grammar.Decoding
import GrammarArtifact.Proofs.Json.Failure

/-! # Messages about documents

A document that is refused is refused with one line that ends with the place. The line is
plain, unless it shows a type of rule that does not exist: this name comes from the document
and is not quoted. -/

namespace GrammarArtifact
open Json Json.Reader

namespace Rule

theorem tame_readValue (room : Nat) : Tame (readValue room) := by
  have noValue : Tame (failRecord (.noForm "RuleValue") : Reader RuleValue) :=
    tame_failRecord (Problem.isTame_noForm (by decide))
  unfold readValue
  refine (tame_loose room).bind fun value => ?_
  split
  · exact tame_pure
  · split
    · exact tame_pure
    · exact noValue
  · exact noValue

theorem isTame_form {room : Nat} {content member : Reader Rule} (hc : Tame content)
    (hm : Tame member) : (form room content member).IsTame where
  title := show IsPlain "struct Rule" by decide
  fields := by
    have types : ∀ e ∈ RuleType.all.map fun t => (t.name, t), IsPlain e.1 := by decide
    simp only [form, List.forall_mem_cons]
    exact ⟨.put (by decide) (tame_choice types),
      .put (by decide) (tame_readValue _).optional,
      .put (by decide) tame_optionalText,
      .put (by decide) hc.optional,
      .put (by decide) hm.list,
      .put (by decide) tame_boolean.optional,
      .put (by decide) tame_optionalText,
      .put (by decide) tame_optionalText, nofun⟩

theorem tame_read : (room : Nat) → Tame (read room)
  | 0 => tame_record (isTame_form (tame_failAhead rfl) (tame_failAhead rfl))
  | 1 => tame_record (isTame_form (tame_read 0) (tame_read 0))
  | room + 2 => tame_record (isTame_form (tame_read (room + 1)) (tame_read room))

end Rule

namespace Document

theorem isTame_property {name : String} {required : Bool} {read : Grammar → Reader Grammar}
    (plain : IsPlain name) (h : ∀ g, Tame (read g)) : (property name required read).IsTame :=
  ⟨plain, fun d => (h d.frame).map⟩

theorem isTame_form (room : Nat) : (form room).IsTame where
  title := show IsPlain "struct Grammar" by decide
  fields := by
    have names (room : Nat) : Tame (readNames room) := (tame_text (by decide)).list
    have rules (room : Nat) : Tame (readRules room) := (Rule.tame_read _).list
    simp only [form, List.forall_mem_cons]
    exact ⟨isTame_property (by decide) fun _ => tame_optionalText.map,
      isTame_property (by decide) fun _ => (tame_text (by decide)).map,
      isTame_property (by decide) fun _ => tame_optionalText.map,
      .put (by decide) (Rule.tame_read _).dictionary,
      isTame_property (by decide) fun _ => (rules _).optional.map,
      isTame_property (by decide) fun _ => (rules _).optional.map,
      isTame_property (by decide) fun _ => (names _).optional.map,
      isTame_property (by decide) fun _ => (rules _).list.optional.map,
      isTame_property (by decide) fun _ => (names _).list.optional.map,
      isTame_property (by decide) fun _ => (rules _).dictionary.optional.map,
      isTame_property (by decide) fun _ => tame_optionalText.map,
      isTame_property (by decide) fun _ => (names _).optional.map, nofun⟩

end Document

/-- **The message for a document that is refused ends with a line and a column, and it is plain
unless it shows a name that is not.** -/
theorem Grammar.message_of_refused {text : String} {e : GrammarError}
    (refused : Grammar.parse text = .error e) : ∃ (problem : Problem) (line column : Nat),
      e.message = "JSON parse error: " ++ (problem.message ++
        s!" at line {line} column {column}") ∧
      (IsPlain e.message ↔ ∀ name known, problem = .unknownName name known → IsPlain name) := by
  obtain ⟨report, rfl, failed⟩ := Grammar.parse_eq_error refused
  obtain ⟨problem, here, tame, rfl⟩ := (tame_record (Document.isTame_form _)).message failed
  refine ⟨problem, here.line, here.column, rfl, ?_⟩
  rw [← tame.isPlain_message_iff]
  constructor
  · intro plain
    exact (isPlain_append.mp (isPlain_append.mp plain).2).1
  · intro plain
    exact .append (by decide) (plain.append here.isPlain_suffix)

/-- A grammar whose rule has a type with a line break in it. -/
def Document.brokenType : String :=
  "\x7b\"name\":\"x\",\"rules\":\x7b\"a\":\x7b\"type\":\"A\\nB\"\x7d\x7d\x7d"

/-- The message shows the line break as it is. -/
theorem Grammar.message_of_broken_type : ∃ (e : GrammarError) (name : String)
    (known : List String) (line column : Nat), Grammar.parse Document.brokenType = .error e ∧
      e.message = "JSON parse error: " ++ ((Problem.unknownName name known).message ++
        s!" at line {line} column {column}") ∧
      ¬ IsPlain name ∧ ¬ IsPlain e.message := by
  obtain ⟨e, refused, broken⟩ : ∃ e, Grammar.parse Document.brokenType = .error e ∧
      ¬ IsPlain e.message := ⟨_, rfl, by decide +kernel⟩
  obtain ⟨problem, line, column, message, plain⟩ := Grammar.message_of_refused refused
  have shown : ¬ ∀ name known, problem = .unknownName name known → IsPlain name :=
    fun all => broken (plain.mpr all)
  simp only [not_forall] at shown
  obtain ⟨name, known, rfl, control⟩ := shown
  exact ⟨e, name, known, line, column, refused, message, control, broken⟩

end GrammarArtifact
