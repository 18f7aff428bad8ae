import GrammarArtifact.Pattern.Tree
import GrammarArtifact.Unicode.Lookup

/-! # The meaning of a pattern

A pattern is turned into an expression over sets of characters. What a part means depends on the
flags that are set where it stands. A pattern matches text, so where it is told to match bytes it
must still never match half a character. -/

namespace GrammarArtifact.Pattern

/-- An expression: what a pattern says once flags, names and ways of writing are gone. -/
inductive Expr where
  | empty
  | literal (bytes : List UInt8)
  | characters (set : CharSet)
  /-- An assertion in one of two variants: ends of lines with or without carriage returns, words of
  all scripts or of ASCII. -/
  | assertion (kind : Assertion) (variant : Bool)
  | repetition (min : Nat) (max : Option Nat) (reluctant : Bool) (sub : Expr)
  | capture (sub : Expr)
  | concat (parts : List Expr)
  | alternation (branches : List Expr)

namespace Expr

mutual

/-- The least number of bytes that a match takes; none if there is a part that nothing matches. -/
def minLength : Expr → Option Nat
  | .empty => some 0
  | .literal bytes => some bytes.length
  | .characters set => set.ranges.head?.map fun r => (Char.ofNat r.lo).utf8Size
  | .assertion _ _ => some 0
  | .repetition min _ _ sub => sub.minLength.map (min * ·)
  | .capture sub => sub.minLength
  | .concat parts => minLengthAll parts
  | .alternation branches => minLengthAny branches

def minLengthAll : List Expr → Option Nat
  | [] => some 0
  | e :: rest => do return (← e.minLength) + (← minLengthAll rest)

def minLengthAny : List Expr → Option Nat
  | [] => none
  | [e] => e.minLength
  | e :: rest => do return min (← e.minLength) (← minLengthAny rest)

end

mutual

def isWidthless : Expr → Bool
  | .empty | .assertion _ _ => true
  | .literal bytes => bytes.isEmpty
  | .characters _ => false
  | .repetition _ max _ sub => max = some 0 || sub.isWidthless
  | .capture sub => sub.isWidthless
  | .concat parts => allWidthless parts
  | .alternation branches => allWidthless branches

def allWidthless : List Expr → Bool
  | [] => true
  | e :: rest => e.isWidthless && allWidthless rest

end

/-- A character as the bytes that it is in a text. -/
def ofChar (c : Char) : Expr := .literal (String.utf8EncodeChar c)

/-- One character of a set; a set of one is a literal. -/
def ofSet (set : CharSet) : Expr :=
  match set.single? with
  | some c => ofChar (Char.ofNat c)
  | none => .characters set

/-- A repetition. What matches only the empty text matches no more when it is repeated. -/
def ofRepetition (min : Nat) (max : Option Nat) (reluctant : Bool) (sub : Expr) : Expr :=
  let bounds :=
    if sub.isWidthless then (Nat.min min 1, some (Nat.min (max.getD 1) 1)) else (min, max)
  match bounds with
  | (0, some 0) => .empty
  | (1, some 1) => sub
  | (min, max) => .repetition min max reluctant sub

/-- Puts an expression in front of a concatenation: the empty one vanishes, and literals join. -/
def prepend : Expr → List Expr → List Expr
  | .empty, rest => rest
  | .literal a, .literal b :: rest => .literal (a ++ b) :: rest
  | .concat parts, rest => parts ++ rest
  | e, rest => e :: rest

def ofConcat (parts : List Expr) : Expr :=
  match parts.foldr (fun e rest => match e with
    | .concat inner => inner.foldr prepend rest
    | e => prepend e rest) [] with
  | [] => .empty
  | [e] => e
  | several => .concat several

/-- The set of the only character that a literal is. -/
def onlyChar? : Expr → Option CharSet
  | .literal bytes =>
    match (String.fromUTF8? ⟨bytes.toArray⟩).map String.toList with
    | some [c] => some (.singleton c.toNat)
    | _ => none
  | _ => none

def charSet? : Expr → Option CharSet
  | .characters set => some set
  | _ => none

/-- One of several expressions. If all are literals of one character, or all are sets, so is the
choice. -/
def ofBranches (branches : List Expr) : Expr :=
  let flat := branches.flatMap fun
    | .alternation inner => inner
    | e => [e]
  match flat with
  | [] => .characters .empty
  | [e] => e
  | several =>
    match several.mapM onlyChar? <|> several.mapM charSet? with
    | some sets => ofSet (CharSet.unions sets)
    | none => .alternation several

mutual

/-- Whether two expressions are the same. A group is like no other. -/
def same : Expr → Expr → Bool
  | .empty, .empty => true
  | .literal a, .literal b => a = b
  | .characters s, .characters t => s = t
  | .assertion kind variant, .assertion kind' variant' => kind = kind' && variant = variant'
  | .repetition min max reluctant sub, .repetition min' max' reluctant' sub' =>
    min = min' && max = max' && reluctant = reluctant' && same sub sub'
  | .concat parts, .concat parts' => allSame parts parts'
  | .alternation branches, .alternation branches' => allSame branches branches'
  | _, _ => false

def allSame : List Expr → List Expr → Bool
  | [], [] => true
  | e :: rest, e' :: rest' => same e e' && allSame rest rest'
  | _, _ => false

end

def commonLength : List Expr → List Expr → Nat
  | e :: rest, e' :: rest' => if same e e' then commonLength rest rest' + 1 else 0
  | _, _ => 0

def parts? : Expr → Option (List Expr)
  | .concat parts => some parts
  | _ => none

/-- One of several expressions. If all are concatenations that begin with the same parts, these
are written once, in front of the choice between what is left. -/
def ofAlternation (branches : List Expr) : Expr :=
  match ofBranches branches with
  | .alternation several =>
    match several.mapM parts? with
    | some (first :: rest) =>
      let count := (rest.map (commonLength first)).foldl min first.length
      if count = 0 then .alternation several
      else
        ofConcat (first.take count ++
          [ofBranches ((first :: rest).map fun parts => ofConcat (parts.drop count))])
    | _ => .alternation several
  | e => e

end Expr

/-- The flags that are set where a part stands. -/
structure Mode where
  ignoreCase : Bool
  unicode : Bool := true
  dotMatchesNewLine : Bool := false
  multiLine : Bool := false
  swapGreed : Bool := false
  crlf : Bool := false

namespace Mode

def withFlags (mode : Mode) (items : List FlagItem) : Mode :=
  let state (flag : Flag) (before : Bool) := (flagState flag false items).getD before
  { ignoreCase := state .ignoreCase mode.ignoreCase
    unicode := state .unicode mode.unicode
    dotMatchesNewLine := state .dotMatchesNewLine mode.dotMatchesNewLine
    multiLine := state .multiLine mode.multiLine
    swapGreed := state .swapGreed mode.swapGreed
    crlf := state .crlf mode.crlf }

/-- A set with the characters that differ in case alone, if case does not count. -/
def fold (mode : Mode) (set : CharSet) : CharSet :=
  if !mode.ignoreCase then set
  else if mode.unicode then Unicode.foldCase set
  else Unicode.foldAsciiCase set

/-- The characters, or the bytes, that are not in a set. -/
def opposite (mode : Mode) (set : CharSet) : CharSet :=
  if mode.unicode then (set.complement CharSet.top).characters else set.complement 0xFF

/-- A class as it stands in the pattern: its set, or the opposite. A byte beyond ASCII is never a
character. -/
def classOf (mode : Mode) (span : Span) (negated : Bool) (set : CharSet) :
    Except Fault CharSet :=
  let result := if negated then mode.opposite set else set
  if mode.unicode || result.isAscii then .ok result
  else .error { problem := .invalidUtf8, span }

/-- A literal where single bytes may be asked for. -/
def literal (mode : Mode) (l : Literal) : Except Fault Char :=
  if !mode.unicode && l.isByte && 0x80 ≤ l.char.toNat then
    .error { problem := .invalidUtf8, span := l.span }
  else .ok l.char

def classLiteral (mode : Mode) (l : Literal) : Except Fault Char := do
  let c ← mode.literal l
  if !mode.unicode && 0x80 ≤ c.toNat then
    throw { problem := .characterBeyondBytes, span := l.span }
  return c

end Mode

def AsciiClass.set (kind : AsciiClass) : CharSet :=
  .ofLines [match kind with
    | .alnum => "30-39 41-5a 61-7a"
    | .alpha => "41-5a 61-7a"
    | .ascii => "0-7f"
    | .blank => "9 20"
    | .cntrl => "0-1f 7f"
    | .digit => "30-39"
    | .graph => "21-7e"
    | .lower => "61-7a"
    | .print => "20-7e"
    | .punct => "21-2f 3a-40 5b-60 7b-7e"
    | .space => "9-d 20"
    | .upper => "41-5a"
    | .word => "30-39 41-5a 5f 61-7a"
    | .xdigit => "30-39 41-46 61-66"]

def ShorthandClass.set (unicode : Bool) : ShorthandClass → CharSet
  | .digit => if unicode then Unicode.category "Nd" else AsciiClass.digit.set
  | .space => if unicode then Unicode.property "White_Space" else AsciiClass.space.set
  | .word => if unicode then Unicode.wordCharacters else AsciiClass.word.set

def PropertyQuery.resolve : PropertyQuery → Except Unicode.LookupError CharSet
  | .named name => Unicode.namedClass name
  | .valued p value => Unicode.valuedClass p value

def lookupProblem : Unicode.LookupError → Problem
  | .unknownProperty => .propertyUnknown
  | .unknownValue => .propertyValueUnknown

def NamedClass.set (mode : Mode) : NamedClass → Except Fault CharSet
  | .shorthand span kind negated => mode.classOf span negated (kind.set mode.unicode)
  | .property span query negated => do
    if !mode.unicode then throw { problem := .characterBeyondBytes, span }
    match query.resolve with
    | .ok set => mode.classOf span negated (mode.fold set)
    | .error e => throw { problem := lookupProblem e, span }

mutual

def ClassSet.set (mode : Mode) : ClassSet → Except Fault CharSet
  | .empty _ => return .empty
  | .literal l => return .singleton (← mode.classLiteral l).toNat
  | .range _ first last => do
    return .ofRange (← mode.classLiteral first).toNat (← mode.classLiteral last).toNat
  | .ascii span kind negated => mode.classOf span negated (mode.fold kind.set)
  | .named c => c.set mode
  | .bracketed span negated inner => do mode.classOf span negated (mode.fold (← inner.set mode))
  | .union _ items => return CharSet.unions (← ClassSet.sets mode items)
  | .combined _ op left right => do
    let left := mode.fold (← left.set mode)
    let right := mode.fold (← right.set mode)
    return match op with
      | .intersection => left.inter right
      | .difference => left.diff right
      | .symmetricDifference => left.symmDiff right

def ClassSet.sets (mode : Mode) : List ClassSet → Except Fault (List CharSet)
  | [] => return []
  | set :: rest => return (← set.set mode) :: (← ClassSet.sets mode rest)

end

def Mode.dot (mode : Mode) (span : Span) : Except Fault CharSet :=
  if !mode.unicode then .error { problem := .invalidUtf8, span }
  else
    let all := (CharSet.ofRange 0 CharSet.top).characters
    .ok <|
      if mode.dotMatchesNewLine then all
      else if mode.crlf then all.diff (.ofLines ["a d"])
      else all.diff (.singleton '\n'.toNat)

/-- The expression of an assertion. Unless lines count, their ends are the ends of the text. -/
def Mode.assertion (mode : Mode) (kind : Assertion) : Expr :=
  match kind with
  | .textStart | .textEnd => .assertion kind false
  | .lineStart => if mode.multiLine then .assertion kind mode.crlf else .assertion .textStart false
  | .lineEnd => if mode.multiLine then .assertion kind mode.crlf else .assertion .textEnd false
  | _ => .assertion kind mode.unicode

def Mode.literalExpr (mode : Mode) (l : Literal) : Except Fault Expr := do
  let c ← mode.literal l
  return .ofSet (mode.fold (.singleton c.toNat))

mutual

/-- The expression of a part, and the mode behind it. -/
def Tree.expr : Tree → Mode → Except Fault (Expr × Mode)
  | .empty _, mode => return (.empty, mode)
  | .flags _ items, mode => return (.empty, mode.withFlags items)
  | .literal l, mode => return (← mode.literalExpr l, mode)
  | .dot span, mode => return (.ofSet (← mode.dot span), mode)
  | .assertion _ kind, mode => return (mode.assertion kind, mode)
  | .named c, mode => return (.ofSet (← c.set mode), mode)
  | .bracketed span negated inner, mode =>
    return (.ofSet (← mode.classOf span negated (mode.fold (← inner.set mode))), mode)
  | .repetition _ min max reluctant sub, mode => do
    let (e, mode) ← sub.expr mode
    return (.ofRepetition min max (reluctant != mode.swapGreed) e, mode)
  | .group _ kind sub, mode => do
    match kind with
    | .capture => return (.capture (← sub.expr mode).1, mode)
    | .plain items => return ((← sub.expr (mode.withFlags items)).1, mode)
  | .alternation _ branches, mode => do
    let (es, mode) ← Tree.exprs branches mode
    return (.ofAlternation es, mode)
  | .concat _ parts, mode => do
    let (es, mode) ← Tree.exprs parts mode
    return (.ofConcat es, mode)

def Tree.exprs : List Tree → Mode → Except Fault (List Expr × Mode)
  | [], mode => return ([], mode)
  | tree :: rest, mode => do
    let (e, mode) ← tree.expr mode
    let (es, mode) ← Tree.exprs rest mode
    return (e :: es, mode)

end

end GrammarArtifact.Pattern
