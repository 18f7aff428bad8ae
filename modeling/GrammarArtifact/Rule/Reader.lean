import GrammarArtifact.Json.Record
import GrammarArtifact.Rule.Basic

/-! # Reading a rule

The rules inside a rule are read with the room that the brackets around them leave: one bracket
around the content, two around a member. -/

namespace GrammarArtifact.Rule
open Json Json.Reader

/-- The levels that a value may have take 32 bits. -/
def isLevel (n : Int) : Bool := -0x80000000 ≤ n && n < 0x80000000

/-- Reads a value: a string or a level. Any other value is read to its end and refused. -/
def readValue (room : Nat) : Reader RuleValue := do
  match ← loose room with
  | .text s => return .string s
  | .number (.whole n) => if isLevel n then return .integer n else failRecord (.noForm "RuleValue")
  | _ => failRecord (.noForm "RuleValue")

/-- The form of a rule, given the readers of its content and of one member. -/
def form (room : Nat) (content member : Reader Rule) : RecordForm Rule where
  title := "struct Rule"
  blank := { type := .blank }
  fields := [
    ⟨"type", true, fun r => return { r with
      type := ← Reader.choice room (RuleType.all.map fun t => (t.name, t)) }⟩,
    ⟨"value", false, fun r => return { r with value := ← Reader.optional (readValue room) }⟩,
    ⟨"name", false, fun r => return { r with name := ← optionalText }⟩,
    ⟨"content", false, fun r => return { r with content := ← Reader.optional content }⟩,
    ⟨"members", false, fun r => return { r with members := ← list room member }⟩,
    ⟨"named", false, fun r => return { r with named := ← Reader.optional boolean }⟩,
    ⟨"flags", false, fun r => return { r with flags := ← optionalText }⟩,
    ⟨"context_name", false, fun r => return { r with contextName := ← optionalText }⟩]

/-- Reads a rule inside which `room` more brackets may be open at once. -/
def read : (room : Nat) → Reader Rule
  | 0 => record 0 (form 0 (failAhead .tooDeep) (failAhead .tooDeep))
  | 1 => record 1 (form 0 (read 0) (read 0))
  | room + 2 => record (room + 2) (form (room + 1) (read (room + 1)) (read room))

/-- Brackets may be nested 127 deep. -/
def roomInDocument : Nat := 127

def parse (text : String) : Except String Rule := Reader.parse (read roomInDocument) text

end GrammarArtifact.Rule
