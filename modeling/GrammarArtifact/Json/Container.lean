import GrammarArtifact.Json.Skip

/-! # Values of an expected kind

Each reader here asks for one kind of value and says what it found if the value is of another. A
reader of a bracketed value is given the room that is left, the number of brackets that may still
be opened inside each other. -/

namespace GrammarArtifact.Json

/-- The cursor at which the closing of a bracket stops: behind the bracket, behind the comma that
stands in a list instead, or at what else is there. -/
def Cursor.passClosing (bracket : Bracket) (here : Cursor) : Cursor :=
  let seen := Reader.afterBlanks here.rest here.offset
  match seen.rest with
  | [] => seen
  | c :: rest =>
    if c = bracket.closing then ⟨rest, seen.offset + 1⟩
    else if c = ',' ∧ bracket = .list then Reader.afterBlanks rest (seen.offset + 1)
    else seen

namespace Reader

variable {α : Type}

/-- Closes a bracket: nothing may be left in it. -/
def close (bracket : Bracket) : Reader Unit := do
  let next ← peekToken?
  modify (Cursor.passClosing bracket)
  match next with
  | none => fail bracket.unclosed
  | some c =>
    if c = bracket.closing then return
    else if c = ',' then
      match bracket with
      | .object => failAhead .trailingComma
      | .list => failAhead (if (← peek?) == some ']' then .trailingComma else .trailingText)
    else failAhead .trailingText

/-- Reads the inside of a bracket that is next. A problem of the whole value gets the place where
closing the bracket stops. -/
def enclosed (room : Nat) (bracket : Bracket) (inside : Reader α) : Reader α := do
  if room = 0 then failAhead .tooDeep
  else do
    skip
    let value ← tryCatch inside fun
      | .placed problem offset => throw (.placed problem offset)
      | .unplaced problem noticed => throw (.placed problem (noticed.passClosing bracket).offset)
    close bracket
    return value

/-- What stands next. A scalar is read, and what is wrong with it goes before; of a bracketed
value the bracket is enough. -/
def found : Reader Found := do
  match ← peek? with
  | some 'n' => do word "null".toList; return .null
  | some 't' => do word "true".toList; return .boolean true
  | some 'f' => do word "false".toList; return .boolean false
  | some '-' => do skip; return (← number true).found
  | some '"' => return .text (← string)
  | some '[' => return .sequence
  | some '{' => return .map
  | some c => if c.isDigit then return (← number false).found else failAhead .valueMissing
  | none => fail .endInValue

def wrongKind (expected : String) : Reader α := do
  fail (.wrongKind (← found) expected)

def text (expected : String) : Reader String := do
  match ← peekToken? with
  | some '"' => string
  | _ => wrongKind expected

def boolean : Reader Bool := do
  match ← peekToken? with
  | some 't' => do word "true".toList; return true
  | some 'f' => do word "false".toList; return false
  | _ => wrongKind "a boolean"

def optional (value : Reader α) : Reader (Option α) := do
  match ← peekToken? with
  | some 'n' => do word "null".toList; return none
  | _ => return some (← value)

def optionalText : Reader (Option String) := optional (text "a string")

/-! ## Lists and maps -/

/-- Whether another element comes. All but the first follow a comma. -/
def nextElement (first : Bool) : Reader Bool := do
  match ← peekToken? with
  | none => fail .endInList
  | some ']' => return false
  | some c =>
    if first then return true
    else if c = ',' then do
      skip
      match ← peekToken? with
      | none => fail .endInValue
      | some ']' => failAhead .trailingComma
      | some _ => return true
    else failAhead .listSeparatorMissing

def elements (element : Reader α) : List Char → (first : Bool) → List α → Reader (List α)
  | [], _, _ => fail .endInList
  | _ :: bound, first, done => do
    if ← nextElement first then elements element bound false ((← element) :: done)
    else return done.reverse

def list (room : Nat) (element : Reader α) : Reader (List α) := do
  match ← peekToken? with
  | some '[' => enclosed room .list do elements element (← get).rest true []
  | _ => wrongKind "a sequence"

/-- Whether another key comes. All but the first follow a comma. -/
def nextKey (first : Bool) : Reader Bool := do
  match ← peekToken? with
  | none => fail .endInObject
  | some '}' => return false
  | some c =>
    if first then if c = '"' then return true else failAhead .keyNotString
    else if c = ',' then do
      skip
      match ← peekToken? with
      | none => fail .endInValue
      | some '"' => return true
      | some '}' => failAhead .trailingComma
      | some _ => failAhead .keyNotString
    else failAhead .objectSeparatorMissing

/-- Reads the entries that are left in an object, in the order in which they are written. -/
def entries (value : Reader α) : List Char → (first : Bool) → List (String × α) →
    Reader (List (String × α))
  | [], _, _ => fail .endInObject
  | _ :: bound, first, done => do
    if ← nextKey first then do
      let key ← string
      colon
      entries value bound false ((key, ← value) :: done)
    else return done.reverse

/-- Reads an object whose keys are free. -/
def dictionary (room : Nat) (value : Reader α) : Reader (List (String × α)) := do
  match ← peekToken? with
  | some '{' => enclosed room .object do entries value (← get).rest true []
  | _ => wrongKind "a map"

/-! ## Names and loose values -/

def knownName (known : List (String × α)) : Reader α := do
  let name ← text "variant identifier"
  match known.lookup name with
  | some value => return value
  | none => fail (.unknownName name (known.map Prod.fst))

/-- Reads `null` where nothing may be said. -/
def nothing : Reader Unit := do
  match ← peekToken? with
  | some 'n' => word "null".toList
  | _ => wrongKind "unit"

/-- Reads a choice between known names: the name alone, or an object with the name as its only
key and nothing under it. -/
def choice (room : Nat) (known : List (String × α)) : Reader α := do
  match ← peekToken? with
  | some '"' => knownName known
  | some '{' =>
    if room = 0 then failAhead .tooDeep
    else do
      skip
      let value ← knownName known
      colon
      nothing
      match ← peekToken? with
      | some '}' => do skip; return value
      | some _ => fail .valueMissing
      | none => fail .endInObject
  | some _ => failAhead .valueMissing
  | none => fail .endInValue

/-- A value of any kind, of which strings and numbers are kept. -/
inductive Loose where
  | text (s : String)
  | number (n : Number)
  | other

/-- Reads a value of any kind, with the reader of the values inside. -/
def looseWith (room : Nat) (inner : Reader Loose) : Reader Loose := do
  match ← peekToken? with
  | none => fail .endInValue
  | some 'n' => do word "null".toList; return .other
  | some 't' => do word "true".toList; return .other
  | some 'f' => do word "false".toList; return .other
  | some '-' => do skip; return .number (← number true)
  | some '"' => return .text (← string)
  | some '[' => do
    let _ ← enclosed room .list do elements inner (← get).rest true []
    return .other
  | some '{' => do
    let _ ← enclosed room .object do entries inner (← get).rest true []
    return .other
  | some c => if c.isDigit then return .number (← number false) else failAhead .valueMissing

def loose : (room : Nat) → Reader Loose
  | 0 => looseWith 0 (failAhead .tooDeep)
  | room + 1 => looseWith (room + 1) (loose room)

end Reader
end GrammarArtifact.Json
