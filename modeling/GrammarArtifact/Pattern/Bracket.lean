import GrammarArtifact.Pattern.Escape

/-! # Bracketed classes

A class may hold classes, and two sets may be combined by an operator that reaches as far as the
brackets around it. What is open while a class is read is kept in a list, the innermost first. -/

namespace GrammarArtifact.Pattern.Scanner

/-- The members of a set that were read so far, the last first. -/
structure Items where
  span : Span
  items : List ClassSet := []

def Items.push (u : Items) (item : ClassSet) : Items :=
  { span := ⟨if u.items.isEmpty then item.span.start else u.span.start, item.span.stop⟩
    items := item :: u.items }

def Items.toSet (u : Items) : ClassSet :=
  match u.items with
  | [] => .empty u.span
  | [item] => item
  | items => .union u.span items.reverse

/-- A bracket that is open, with what was read before it, or an operator that waits for its second
operand. -/
inductive ClassFrame where
  | opened (before : Items) (span : Span) (negated : Bool)
  | waiting (op : SetOp) (left : ClassSet)

/-- Combines a set with the operand that waits for it, if one does. -/
def combine (right : ClassSet) : List ClassFrame → ClassSet × List ClassFrame
  | .waiting op left :: rest =>
    (.combined ⟨left.span.start, right.span.stop⟩ op left right, rest)
  | frames => (right, frames)

/-- Fails because a class has no end. The innermost bracket is shown. -/
def failUnclosed {α : Type} : List ClassFrame → Scanner α
  | .opened _ span _ :: _ => fail .classUnclosed span
  | .waiting _ _ :: rest => failUnclosed rest
  | [] => failHere .classUnclosed

/-- Reads the hyphens that may stand at the front of a class. -/
def leadingHyphens (start : Nat) (u : Items) : List Char → Scanner Items
  | [] => return u
  | _ :: bound => do
    if (← peek?) == some '-' then do
      let item := ClassSet.literal { span := ← charSpan, char := '-', isByte := false }
      next
      if ← atEnd then fail .classUnclosed ⟨start, start⟩
      leadingHyphens start (u.push item) bound
    else return u

/-- Opens a bracket. A sign `^` behind it makes the class the opposite, and hyphens or a closing
bracket that come first stand for themselves. -/
def openClass : Scanner (Items × Span × Bool) := do
  let start ← index
  next
  if ← atEnd then failSince .classUnclosed start
  let negated := (← peek?) == some '^'
  if negated then do
    next
    if ← atEnd then failSince .classUnclosed start
  let u ← leadingHyphens start { span := ← here } (← get).rest
  if u.items.isEmpty && (← peek?) == some ']' then do
    let item := ClassSet.literal { span := ← charSpan, char := ']', isByte := false }
    next
    if ← atEnd then failSince .classUnclosed start
    return (u.push item, ← since start, negated)
  else return (u, ← since start, negated)

/-- The class of a name between `[:` and `:]`. -/
def asciiClass? : String → Option AsciiClass
  | "alnum" => some .alnum
  | "alpha" => some .alpha
  | "ascii" => some .ascii
  | "blank" => some .blank
  | "cntrl" => some .cntrl
  | "digit" => some .digit
  | "graph" => some .graph
  | "lower" => some .lower
  | "print" => some .print
  | "punct" => some .punct
  | "space" => some .space
  | "upper" => some .upper
  | "word" => some .word
  | "xdigit" => some .xdigit
  | _ => none

/-- The class that `[:name:]` at the front of some characters names, whether it is the opposite,
and the number of characters it takes. -/
def asciiClassAt? : List Char → Option (AsciiClass × Bool × Nat)
  | '[' :: ':' :: rest =>
    let negated := rest.head? = some '^'
    let text := if negated then rest.drop 1 else rest
    let name := text.takeWhile (· ≠ ':')
    if (text.drop name.length).take 2 = [':', ']'] then
      (asciiClass? (String.ofList name)).map fun kind =>
        (kind, negated, name.length + (if negated then 5 else 4))
    else none
  | _ => none

def asciiClass : Scanner (Option ClassSet) := do
  let s ← get
  match asciiClassAt? s.rest with
  | none => return none
  | some (kind, negated, length) =>
    set { s with rest := s.rest.drop length, index := s.index + length }
    return some (.ascii ⟨s.index, s.index + length⟩ kind negated)

def classItem : Scanner Tree := do
  match ← peek? with
  | some '\\' => escape
  | some char => do
    let span ← charSpan
    skip
    return .literal { span, char, isByte := false }
  | none => failHere .classUnclosed

def asMember : Tree → Scanner ClassSet
  | .literal l => return .literal l
  | .named class_ => return .named class_
  | other => fail .classEscapeInvalid other.span

def asEnd : Tree → Scanner Literal
  | .literal l => return l
  | other => fail .classRangeNotLiteral other.span

/-- Reads a member of a class, or the two ends of a range. A hyphen before a closing bracket or
another hyphen makes no range. -/
def classRange (frames : List ClassFrame) : Scanner ClassSet := do
  let first ← classItem
  skipBlanks
  if ← atEnd then failUnclosed frames
  let second ← peekSecondSign?
  if (← peek?) != some '-' || second == some ']' || second == some '-' then asMember first
  else do
    next
    if ← atEnd then failUnclosed frames
    let last ← classItem
    let span : Span := ⟨first.span.start, last.span.stop⟩
    let lo ← asEnd first
    let hi ← asEnd last
    if lo.char ≤ hi.char then return .range span lo hi else fail .classRangeInvalid span

def setOp? : Scanner (Option SetOp) := do
  match (← get).rest with
  | '&' :: '&' :: _ => return some .intersection
  | '-' :: '-' :: _ => return some .difference
  | '~' :: '~' :: _ => return some .symmetricDifference
  | _ => return none

/-- Reads on in the brackets that are open. -/
def classRest (u : Items) (frames : List ClassFrame) : List Char → Scanner Tree
  | [] => failUnclosed frames
  | _ :: bound => do
    skipBlanks
    match ← peek? with
    | none => failUnclosed frames
    | some '[' => do
      match ← asciiClass with
      | some item => classRest (u.push item) frames bound
      | none => do
        let (inner, span, negated) ← openClass
        classRest inner (.opened u span negated :: frames) bound
    | some ']' => do
      let (set, outer) := combine u.toSet frames
      skip
      match outer with
      | .opened before span negated :: rest =>
        let span : Span := ⟨span.start, ← index⟩
        if rest.isEmpty then return .bracketed span negated set
        else classRest (before.push (.bracketed span negated set)) rest bound
      | _ => failHere .classUnclosed
    | some _ => do
      match ← setOp? with
      | some op => do
        let (left, outer) := combine u.toSet frames
        skip
        skip
        classRest { span := ← here } (.waiting op left :: outer) bound
      | none => do
        let item ← classRange frames
        classRest (u.push item) frames bound

/-- Reads a class whose opening bracket is next. -/
def bracketed : Scanner Tree := do
  let (u, span, negated) ← openClass
  classRest u [.opened { span } span negated] (← get).rest

end GrammarArtifact.Pattern.Scanner
