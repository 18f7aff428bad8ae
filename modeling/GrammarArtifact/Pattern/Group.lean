import GrammarArtifact.Pattern.Bracket

/-! # Groups and repetitions -/

namespace GrammarArtifact.Pattern.Scanner

/-- Letters, for the names of groups. -/
def letters : CharSet := Unicode.property "Alphabetic"

/-- Letters and numbers, for the names of groups. -/
def lettersAndNumbers : CharSet := letters.union (Unicode.category "N")

def isNameChar (first : Bool) (c : Char) : Bool :=
  if first then c = '_' || letters.contains c.toNat
  else "_.[]".toList.contains c || lettersAndNumbers.contains c.toNat

/-- The names of the groups that were read, each with its span. -/
abbrev Names := List (String × Span)

def nameRest (first : Bool) (done : List Char) : List Char → Scanner (List Char)
  | [] => return done.reverse
  | _ :: bound => do
    match ← peek? with
    | none => return done.reverse
    | some '>' => return done.reverse
    | some c =>
      if isNameChar first c then do skip; nameRest false (c :: done) bound
      else failChar .groupNameInvalid

/-- Reads the name of a group, which no group before may have. -/
def groupName (names : Names) : Scanner Names := do
  if ← atEnd then failHere .groupNameUnclosed
  let start ← index
  let name := String.ofList (← nameRest true [] (← get).rest)
  let span ← since start
  if ← atEnd then failHere .groupNameUnclosed
  skip
  if name.isEmpty then fail .groupNameEmpty ⟨start, start⟩
  match names.lookup name with
  | some before => throw { problem := .groupNameRepeated, span, other? := some before }
  | none => return (name, span) :: names

def flag? : Char → Option Flag
  | 'i' => some .ignoreCase
  | 'm' => some .multiLine
  | 's' => some .dotMatchesNewLine
  | 'U' => some .swapGreed
  | 'u' => some .unicode
  | 'R' => some .crlf
  | 'x' => some .ignoreBlanks
  | _ => none

/-- Reads a list of flags up to the sign behind it. `done` holds the items so far, each with its
span, the last first. -/
def flagsRest (done : List (FlagItem × Span)) : List Char → Scanner (List FlagItem)
  | [] => failHere .flagUnfinished
  | _ :: bound => do
    match ← peek? with
    | none => failHere .flagUnfinished
    | some c =>
      if c = ':' ∨ c = ')' then
        match done with
        | (.negation, span) :: _ => fail .flagNegationDangling span
        | _ => return (done.map Prod.fst).reverse
      else do
        let span ← charSpan
        let item ← if c = '-' then pure FlagItem.negation
          else match flag? c with
            | some flag => pure (.flag flag)
            | none => fail .flagUnknown span
        match done.lookup item with
        | some before =>
          let problem := if c = '-' then Problem.flagNegationRepeated else .flagRepeated
          throw { problem, span, other? := some before }
        | none => do
          skip
          if ← atEnd then failHere .flagUnfinished
          flagsRest ((item, span) :: done) bound

/-- The ways to look around, which patterns cannot do. -/
def lookArounds : List String := ["?=", "?!", "?<=", "?<!"]

def acceptAny : List String → Scanner Bool
  | [] => return false
  | sign :: more => do if ← accept sign then return true else acceptAny more

/-- What an opening parenthesis begins: a list of flags that ends at once, or a group. -/
inductive GroupStart where
  | flags (tree : Tree)
  | group (span : Span) (kind : GroupKind)

def groupStart (names : Names) : Scanner (GroupStart × Names) := do
  let span ← charSpan
  next
  if ← acceptAny lookArounds then failSince .lookAround span.start
  let inner ← here
  if ← acceptAny ["?P<", "?<"] then do
    let names ← groupName names
    return (.group span .capture, names)
  else if ← accept "?" then do
    if ← atEnd then fail .groupUnclosed span
    let items ← flagsRest [] (← get).rest
    let last ← peek?
    skip
    if last == some ')' then
      if items.isEmpty then fail .repetitionMissing inner
      else return (.flags (.flags (← since span.start) items), names)
    else return (.group span (.plain items), names)
  else return (.group span .capture, names)

/-! ## Repetitions -/

def skipWhiteSpace : Scanner Unit := modify fun s =>
  let (rest, index) := dropWhile isWhiteSpace s.rest s.index
  { s with rest, index }

def digitsRest (done : List Char) : List Char → Scanner (List Char)
  | [] => return done.reverse
  | _ :: bound => do
    match ← peek? with
    | some c => if c.isDigit then do next; digitsRest (c :: done) bound else return done.reverse
    | none => return done.reverse

/-- Reads a number of at most 32 bits, or gives what is wrong with it. -/
def count : Scanner (Except Fault Nat) := do
  skipWhiteSpace
  let start ← index
  let digits ← digitsRest [] (← get).rest
  let span ← since start
  skipWhiteSpace
  let n := digits.foldl (fun n c => 10 * n + (c.toNat - '0'.toNat)) 0
  return if digits.isEmpty then .error { problem := .countEmpty, span }
    else if n < 0x100000000 then .ok n else .error { problem := .decimalInvalid, span }

/-- Gives a number or fails for what is wrong with it. -/
def given : Except Fault Nat → Scanner Nat
  | .ok n => return n
  | .error fault => throw fault

/-- The part that a repetition repeats: the last that was read, if there is one and it can match
anything. `done` holds the parts, the last first. -/
def repeatable : List Tree → Scanner (Tree × List Tree)
  | [] => failHere .repetitionMissing
  | .empty _ :: _ => failHere .repetitionMissing
  | .flags _ _ :: _ => failHere .repetitionMissing
  | part :: done => return (part, done)

/-- Takes the sign that makes a repetition match as little as it can, if it is next. -/
def reluctance : Scanner Bool := do
  if (← peek?) == some '?' then do skip; return true else return false

def signRepetition (done : List Tree) (min : Nat) (max : Option Nat) : Scanner (List Tree) := do
  let (part, done) ← repeatable done
  skip
  let reluctant ← reluctance
  return .repetition ⟨part.span.start, ← index⟩ min max reluctant part :: done

/-- Reads the bounds in the braces of a repetition, from behind the opening brace. -/
def bounds (start : Nat) : Scanner (Nat × Option Nat) := do
  let least ← count
  match ← peek? with
  | none => failSince .countUnclosed start
  | some ',' => do
    next
    match ← peek? with
    | none => failSince .countUnclosed start
    | some '}' => return (← given least, none)
    | some _ => do
      let least ← given least
      return (least, some (← given (← count)))
  | some _ => do
    let exact ← given least
    return (exact, some exact)

def countedRepetition (done : List Tree) : Scanner (List Tree) := do
  let start ← index
  let (part, done) ← repeatable done
  next
  if ← atEnd then failSince .countUnclosed start
  let (min, max) ← bounds start
  if (← peek?) != some '}' then failSince .countUnclosed start
  next
  let reluctant ← reluctance
  if max.any (· < min) then failSince .countRangeInvalid start
  return .repetition ⟨part.span.start, ← index⟩ min max reluctant part :: done

end GrammarArtifact.Pattern.Scanner
