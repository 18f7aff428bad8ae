import GrammarArtifact.Pattern.Tree
import GrammarArtifact.Unicode.Table

/-! # Scanning a pattern

A scanner stands before a character of a pattern and moves over it. While blanks are ignored they,
and comments from `#` to the end of the line, may stand between the signs of the pattern. -/

namespace GrammarArtifact.Pattern

/-- Where a scanner stands and whether it ignores blanks. -/
structure Scan where
  rest : List Char
  index : Nat
  ignoreBlanks : Bool
  deriving Inhabited

abbrev Scanner := StateT Scan (Except Fault)

def whiteSpace : CharSet := Unicode.property "White_Space"

def isWhiteSpace (c : Char) : Bool := whiteSpace.contains c.toNat

def dropWhile (drops : Char → Bool) : List Char → Nat → List Char × Nat
  | [], index => ([], index)
  | c :: rest, index => if drops c then dropWhile drops rest (index + 1) else (c :: rest, index)

def dropBlanks : (inComment : Bool) → List Char → Nat → List Char × Nat
  | _, [], index => ([], index)
  | inComment, c :: rest, index =>
    if inComment then dropBlanks (c ≠ '\n') rest (index + 1)
    else if isWhiteSpace c then dropBlanks false rest (index + 1)
    else if c = '#' then dropBlanks true rest (index + 1)
    else (c :: rest, index)

namespace Scanner

variable {α : Type}

def index : Scanner Nat := return (← get).index

def peek? : Scanner (Option Char) := return (← get).rest.head?

def atEnd : Scanner Bool := return (← get).rest.isEmpty

def skip : Scanner Unit := modify fun s =>
  match s.rest with
  | [] => s
  | _ :: rest => { s with rest, index := s.index + 1 }

def skipBlanks : Scanner Unit := modify fun s =>
  if s.ignoreBlanks then
    let (rest, index) := dropBlanks false s.rest s.index
    { s with rest, index }
  else s

/-- Moves over a character and the blanks behind it. -/
def next : Scanner Unit := do skip; skipBlanks

def accept (text : String) : Scanner Bool := do
  let s ← get
  if text.toList.isPrefixOf s.rest then do
    set { s with rest := s.rest.drop text.length, index := s.index + text.length }
    return true
  else return false

/-- The sign behind the next one. Where blanks are ignored, white space and the sign that begins
a comment are passed over, and of a comment no more than that. -/
def peekSecondSign? : Scanner (Option Char) := do
  let s ← get
  let rest := s.rest.drop 1
  if s.ignoreBlanks then
    return ((go false rest).head?).orElse fun _ => rest.head?
  else return rest.head?
where
  go : Bool → List Char → List Char
    | _, [] => []
    | inComment, c :: more =>
      if isWhiteSpace c then go inComment more
      else if !inComment && c = '#' then go true more
      else c :: more

def charSpan : Scanner Span := do
  let s ← get
  return ⟨s.index, if s.rest.isEmpty then s.index else s.index + 1⟩

def here : Scanner Span := return ⟨(← get).index, (← get).index⟩

def since (start : Nat) : Scanner Span := return ⟨start, (← get).index⟩

def fail (problem : Problem) (span : Span) : Scanner α := throw { problem, span }

def failHere (problem : Problem) : Scanner α := do fail problem (← here)

def failChar (problem : Problem) : Scanner α := do fail problem (← charSpan)

def failSince (problem : Problem) (start : Nat) : Scanner α := do fail problem (← since start)

end Scanner
end GrammarArtifact.Pattern
