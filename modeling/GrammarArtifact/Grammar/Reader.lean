import GrammarArtifact.Grammar.Basic
import GrammarArtifact.Rule.Reader

/-! # Reading a grammar

A document lists its rules in some order. In the grammar that it gives this order leaves no trace,
save that of entries of one name in `rules` or `reserved` the last counts. -/

namespace GrammarArtifact
open Json Json.Reader

/-- A grammar as a text gives it. -/
structure Document where
  /-- The entries of `rules`, in the order in which they are written. -/
  entries : List (String × Rule)
  /-- All other properties. -/
  frame : Grammar

def Document.grammar (d : Document) : Grammar := { d.frame with rules := .ofList d.entries }

namespace Document

def readNames (room : Nat) : Reader (List String) := list room (text "a string")

/-- Reads a list of rules: a rule in it is inside one more bracket. -/
def readRules (room : Nat) : Reader (List Rule) := list room (Rule.read (room - 1))

/-- A field that holds a property other than `rules`. -/
def property (name : String) (required : Bool) (read : Grammar → Reader Grammar) :
    Json.Field Document :=
  ⟨name, required, fun d => return { d with frame := ← read d.frame }⟩

/-- The form of a grammar inside which `room` more brackets may be open at once. -/
def form (room : Nat) : RecordForm Document where
  title := "struct Grammar"
  blank := { entries := [], frame := { name := "", rules := ∅ } }
  fields := [
    property "$schema" false fun g => return { g with schema := ← optionalText },
    property "name" true fun g => return { g with name := ← text "a string" },
    property "inherits" false fun g => return { g with inherits := ← optionalText },
    ⟨"rules", true, fun d => return { d with
      entries := ← dictionary room (Rule.read (room - 1)) }⟩,
    property "extras" false fun g => return { g with extras := ← optional (readRules room) },
    property "externals" false fun g => return { g with externals := ← optional (readRules room) },
    property "inline" false fun g => return { g with inlined := ← optional (readNames room) },
    property "precedences" false fun g => return { g with
      precedences := ← optional (list room (readRules (room - 1))) },
    property "conflicts" false fun g => return { g with
      conflicts := ← optional (list room (readNames (room - 1))) },
    property "reserved" false fun g => return { g with
      reserved := (← optional (dictionary room (readRules (room - 1)))).map (.ofList ·) },
    property "word" false fun g => return { g with word := ← optionalText },
    property "supertypes" false fun g => return { g with
      supertypes := ← optional (readNames room) }]

def parse (text : String) : Except GrammarError Document :=
  (Reader.parse (record Rule.roomInDocument (form (Rule.roomInDocument - 1))) text).mapError
    .unreadable

end Document

def Grammar.parse (text : String) : Except GrammarError Grammar :=
  (Document.parse text).map Document.grammar

end GrammarArtifact
