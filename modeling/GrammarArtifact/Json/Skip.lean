import GrammarArtifact.Json.Number

/-! # Passing over values

A value under a key that no record knows is checked for its form and forgotten. The brackets that
are open are kept in a list, so such a value may be nested as deep as it likes. -/

namespace GrammarArtifact.Json

inductive Bracket where
  | list
  | object
  deriving DecidableEq

namespace Bracket

def closing : Bracket → Char
  | .list => ']'
  | .object => '}'

def unclosed : Bracket → Problem
  | .list => .endInList
  | .object => .endInObject

def unseparated : Bracket → Problem
  | .list => .listSeparatorMissing
  | .object => .objectSeparatorMissing

end Bracket

namespace Reader

/-- Passes over an escape in a string that nobody asks for. Surrogates need not pair up. -/
def skipEscape : Reader Unit := do
  match ← peek? with
  | none => fail .endInString
  | some 'u' => do
    skip
    let _ ← hexEscape
  | some c => if (shortEscape? c).isSome then skip else failAhead .badEscape

/-- Passes over the characters of a string up to the closing quote. A control character is not
taken. -/
def skipStringRest : List Char → Reader Unit
  | [] => fail .endInString
  | _ :: bound => do
    match ← peek? with
    | none => fail .endInString
    | some '"' => skip
    | some '\\' => do skip; skipEscape; skipStringRest bound
    | some c => if c.toNat < 0x20 then fail .controlCharacter else do skip; skipStringRest bound

def skipString : Reader Unit := do
  skip
  skipStringRest (← get).rest

def colon : Reader Unit := do
  match ← peekToken? with
  | some ':' => skip
  | some _ => failAhead .colonMissing
  | none => fail .endInObject

/-- The start of a value: a scalar is passed over, and a bracket is opened. -/
def skipStart : Reader (Option Bracket) := do
  match ← peekToken? with
  | none => fail .endInValue
  | some '[' => do skip; return some .list
  | some '{' => do skip; return some .object
  | some '"' => do skipString; return none
  | some 'n' => do word "null".toList; return none
  | some 't' => do word "true".toList; return none
  | some 'f' => do word "false".toList; return none
  | some '-' => do skip; skipNumber; return none
  | some c => if c.isDigit then do skipNumber; return none else failAhead .valueMissing

def skipKey : Reader Unit := do
  match ← peekToken? with
  | some '"' => do skipString; colon
  | some _ => failAhead .keyNotString
  | none => fail .endInObject

/-- Passes over the members and the ends of the brackets in `opened`, the innermost first. With
`fresh` the innermost has no member yet, otherwise one has just ended. -/
def skipOpened : List Char → (fresh : Bool) → (opened : List Bracket) → Reader Unit
  | _, _, [] => return
  | [], _, bracket :: _ => fail bracket.unclosed
  | _ :: bound, fresh, bracket :: outer => do
    match ← peekToken? with
    | none => fail bracket.unclosed
    | some c =>
      if c = bracket.closing then do
        skip
        skipOpened bound false outer
      else do
        if !fresh then
          if c = ',' then skip else failAhead bracket.unseparated
        if bracket = .object then skipKey
        match ← skipStart with
        | none => skipOpened bound false (bracket :: outer)
        | some inner => skipOpened bound true (inner :: bracket :: outer)

def skipValue : Reader Unit := do
  match ← skipStart with
  | none => return
  | some bracket => skipOpened (← get).rest true [bracket]

end Reader
end GrammarArtifact.Json
