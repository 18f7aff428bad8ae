import GrammarArtifact.Json.Problem

/-! # Reading a JSON text

A reader takes characters off the front of a text and either gives a value or fails. A failure is
found at a place, or at once for a whole record; the latter gets its place when the record is
left. Loops over a text carry the text that was left when they began as their bound: no loop runs
more often than there are characters. -/

namespace GrammarArtifact.Json

/-- What is left of a text and the number of bytes before it. -/
structure Cursor where
  rest : List Char
  offset : Nat
  deriving Inhabited

/-- A problem with its place, or a problem of the record that is being read and the cursor at
which it was noticed. -/
inductive Failure where
  | placed (problem : Problem) (offset : Nat)
  | unplaced (problem : Problem) (noticed : Cursor)

abbrev Reader := StateT Cursor (Except Failure)

namespace Reader

variable {α : Type}

def fail (problem : Problem) : Reader α := do
  throw (.placed problem (← get).offset)

/-- Fails one byte further on, which is the place of a character that is seen but not taken. At
the end of the text it is the end. -/
def failAhead (problem : Problem) : Reader α := do
  let here ← get
  throw (.placed problem (if here.rest.isEmpty then here.offset else here.offset + 1))

/-- Fails for the record that is being read. -/
def failRecord (problem : Problem) : Reader α := do
  throw (.unplaced problem (← get))

/-- The next character, which stays. -/
def peek? : Reader (Option Char) := do
  return (← get).rest.head?

def skip : Reader Unit := modify fun here =>
  match here.rest with
  | [] => here
  | c :: rest => ⟨rest, here.offset + c.utf8Size⟩

/-- The four characters that may stand between the parts of a document. -/
def isBlank (c : Char) : Bool := c = ' ' || c = '\n' || c = '\t' || c = '\r'

/-- The cursor behind the blanks. Each of them takes one byte. -/
def afterBlanks : List Char → Nat → Cursor
  | [], offset => ⟨[], offset⟩
  | c :: rest, offset => if isBlank c then afterBlanks rest (offset + 1) else ⟨c :: rest, offset⟩

/-- Passes over blanks and shows the character behind them. -/
def peekToken? : Reader (Option Char) := do
  modify fun here => afterBlanks here.rest here.offset
  peek?

/-- Reads the characters of a word. The first one that differs is taken too, one byte of it. -/
def word : List Char → Reader Unit
  | [] => return
  | expected :: more => do
    match ← peek? with
    | none => fail .endInValue
    | some c => if c = expected then do skip; word more else failAhead .wordMisspelt

/-! ## Strings -/

def hexCode? : List Char → Option Nat
  | [a, b, c, d] => do
    return 4096 * (← CharSet.hexDigit? a) + 256 * (← CharSet.hexDigit? b) +
      16 * (← CharSet.hexDigit? c) + (← CharSet.hexDigit? d)
  | _ => none

/-- Reads the four digits of a `\u` escape. Four bytes are taken together, whatever they are. -/
def hexEscape : Reader Nat := do
  let here ← get
  let next := here.rest.take 4
  match hexCode? next with
  | some n => set (Cursor.mk (here.rest.drop 4) (here.offset + 4)); return n
  | none =>
    let bytes := next.foldl (fun n c => n + c.utf8Size) 0
    throw <| if bytes < 4 then .placed .endInString (here.offset + bytes)
      else .placed .badEscape (here.offset + 4)

/-- Takes a character that has to stand in the second half of a surrogate pair. -/
def pairPart (expected : Char) : Reader Unit := do
  match ← peek? with
  | none => fail .endInString
  | some c => if c = expected then skip else failAhead .surrogateUnfinished

/-- Reads a `\u` escape, or the two of a surrogate pair. -/
def unicodeEscape : Reader Char := do
  let high ← hexEscape
  if 0xDC00 ≤ high ∧ high ≤ 0xDFFF then fail .loneSurrogate
  else if 0xD800 ≤ high ∧ high ≤ 0xDBFF then do
    pairPart '\\'
    pairPart 'u'
    let low ← hexEscape
    if 0xDC00 ≤ low ∧ low ≤ 0xDFFF then
      return Char.ofNat (0x10000 + (high - 0xD800) * 0x400 + (low - 0xDC00))
    else fail .loneSurrogate
  else return Char.ofNat high

/-- The character that a letter after a backslash stands for, `\u` apart. -/
def shortEscape? : Char → Option Char
  | '"' => some '"'
  | '\\' => some '\\'
  | '/' => some '/'
  | 'b' => some '\x08'
  | 'f' => some '\x0c'
  | 'n' => some '\n'
  | 'r' => some '\r'
  | 't' => some '\t'
  | _ => none

def escape : Reader Char := do
  match ← peek? with
  | none => fail .endInString
  | some 'u' => do skip; unicodeEscape
  | some c =>
    match shortEscape? c with
    | some meant => do skip; return meant
    | none => failAhead .badEscape

/-- Reads the characters of a string up to the closing quote. -/
def stringRest : List Char → List Char → Reader String
  | [], _ => fail .endInString
  | _ :: bound, done => do
    match ← peek? with
    | none => fail .endInString
    | some '"' => do skip; return String.ofList done.reverse
    | some '\\' => do skip; stringRest bound ((← escape) :: done)
    | some c => do
      skip
      if c.toNat < 0x20 then fail .controlCharacter else stringRest bound (c :: done)

/-- Reads a string whose opening quote is next. -/
def string : Reader String := do
  skip
  stringRest (← get).rest []

/-! ## Running a reader -/

/-- Reads a whole text: behind the value only blanks may stand. -/
def document (reader : Reader α) : Reader α := do
  let value ← reader
  match ← peekToken? with
  | none => return value
  | some _ => failAhead .trailingText

def report (text : List Char) : Failure → String
  | .placed problem offset => problem.message ++ (Location.ofOffset text offset).suffix
  | .unplaced problem noticed => problem.message ++ (Location.ofOffset text noticed.offset).suffix

/-- Reads a text and gives the value or the message of the failure. -/
def parse (reader : Reader α) (text : String) : Except String α :=
  match (document reader).run ⟨text.toList, 0⟩ with
  | .ok (value, _) => .ok value
  | .error failure => .error (report text.toList failure)

end Reader
end GrammarArtifact.Json
