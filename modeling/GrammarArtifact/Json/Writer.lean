import GrammarArtifact.Text.Quoted

/-! # Writing JSON

A value is written over several lines, each level two blanks further in, and an empty list or
object on one. Only what must be escaped in a string is. -/

namespace GrammarArtifact.Json

inductive Value where
  | boolean (b : Bool)
  | integer (n : Int)
  | text (s : String)
  | list (items : List Value)
  | object (members : List (String × Value))

def escaped (c : Char) : List Char :=
  match c with
  | '"' => ['\\', '"']
  | '\\' => ['\\', '\\']
  | '\x08' => ['\\', 'b']
  | '\t' => ['\\', 't']
  | '\n' => ['\\', 'n']
  | '\x0c' => ['\\', 'f']
  | '\r' => ['\\', 'r']
  | c =>
    if c.toNat < 0x20 then
      ['\\', 'u', '0', '0', Nat.digitChar (c.toNat / 16), Nat.digitChar (c.toNat % 16)]
    else [c]

def stringLiteral (s : String) : String :=
  "\"" ++ String.ofList (s.toList.flatMap escaped) ++ "\""

/-- A line break and the indentation of a level. -/
def newLine (level : Nat) : String := "\n" ++ String.ofList (List.replicate (2 * level) ' ')

namespace Value

mutual

/-- The text of a value whose first character stands on a given level. -/
def render (level : Nat) : Value → String
  | .boolean b => if b then "true" else "false"
  | .integer n => toString n
  | .text s => stringLiteral s
  | .list [] => "[]"
  | .list (item :: rest) =>
    "[" ++ newLine (level + 1) ++ item.render (level + 1) ++ renderItems (level + 1) rest ++
      newLine level ++ "]"
  | .object [] => "\x7b\x7d"
  | .object ((key, value) :: rest) =>
    "\x7b" ++ newLine (level + 1) ++ stringLiteral key ++ ": " ++ value.render (level + 1) ++
      renderMembers (level + 1) rest ++ newLine level ++ "\x7d"

/-- The items that follow another one. -/
def renderItems (level : Nat) : List Value → String
  | [] => ""
  | item :: rest => "," ++ newLine level ++ item.render level ++ renderItems level rest

/-- The members that follow another one. -/
def renderMembers (level : Nat) : List (String × Value) → String
  | [] => ""
  | (key, value) :: rest =>
    "," ++ newLine level ++ stringLiteral key ++ ": " ++ value.render level ++
      renderMembers level rest

end

end Value
end GrammarArtifact.Json
