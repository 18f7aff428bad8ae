import GrammarArtifact.Pattern.Scanner

/-! # Escapes

What may stand behind a backslash: a character by its code point, a class by its name, an
assertion, or a sign that would otherwise mean something. -/

namespace GrammarArtifact.Pattern.Scanner

/-- The signs that mean something in a pattern. -/
def isMeta (c : Char) : Bool := "\\.+*?()|[]\x7b\x7d^$#&-~".toList.contains c

/-- The characters that a backslash leaves as they are: ASCII, but no letters and digits, and not
the signs that stand for the ends of words. -/
def isPlainEscape (c : Char) : Bool :=
  c.toNat < 0x80 && !c.isAlphanum && c ≠ '<' && c ≠ '>'

def isHexDigit (c : Char) : Bool := (CharSet.hexDigit? c).isSome

def hexChar? (digits : List Char) : Option Char :=
  let n := digits.foldl (fun n c => 16 * n + (CharSet.hexDigit? c).getD 0) 0
  if n < 0xD800 ∨ (0xDFFF < n ∧ n ≤ CharSet.top) then some (Char.ofNat n) else none

def hexDigits (done : List Char) : Nat → Scanner (List Char)
  | 0 => return done.reverse
  | count + 1 => do
    match ← peek? with
    | none => failHere .escapeUnfinished
    | some c =>
      if isHexDigit c then do next; hexDigits (c :: done) count
      else failChar .hexDigitInvalid

/-- Reads characters up to a closing brace; the sign before them is next. -/
def untilBrace (allowed : Char → Bool) (done : List Char) : List Char → Scanner (List Char)
  | [] => return done.reverse
  | _ :: bound => do
    next
    match ← peek? with
    | none => return done.reverse
    | some '}' => return done.reverse
    | some c =>
      if allowed c then untilBrace allowed (c :: done) bound else failChar .hexDigitInvalid

/-- Reads a code point: two, four or eight digits, or any number of them in braces. -/
def codePoint (start : Nat) : Scanner Tree := do
  let count := match ← peek? with
    | some 'x' => 2
    | some 'u' => 4
    | _ => 8
  next
  match ← peek? with
  | none => failHere .escapeUnfinished
  | some '{' => do
    let brace ← index
    let digits ← untilBrace isHexDigit [] (← get).rest
    if ← atEnd then failSince .escapeUnfinished brace
    let stop ← index
    next
    if digits.isEmpty then failSince .hexEmpty brace
    match hexChar? digits with
    | none => fail .hexNotCharacter ⟨brace + 1, stop⟩
    | some char => return .literal { span := ← since start, char, isByte := false }
  | some _ => do
    let first ← index
    let digits ← hexDigits [] count
    match hexChar? digits with
    | none => failSince .hexNotCharacter first
    | some char => return .literal { span := ← since start, char, isByte := count = 2 }

def splitAt? (sign : List Char) (before : List Char) : List Char → Option (String × String)
  | [] => none
  | c :: rest =>
    if sign.isPrefixOf (c :: rest) then
      some (String.ofList before.reverse, String.ofList ((c :: rest).drop sign.length))
    else splitAt? sign (c :: before) rest

/-- What the text between the braces of `\p` asks for, and whether it asks for the opposite. -/
def propertyQuery (text : List Char) : PropertyQuery × Bool :=
  match splitAt? ['!', '='] [] text with
  | some (property, value) => (.valued property value, true)
  | none =>
    match (splitAt? [':'] [] text).orElse fun _ => splitAt? ['='] [] text with
    | some (property, value) => (.valued property value, false)
    | none => (.named (String.ofList text), false)

/-- Reads a class by the name of a property: one letter, or a name in braces. -/
def propertyClass (start : Nat) : Scanner Tree := do
  let negated := (← peek?) == some 'P'
  next
  match ← peek? with
  | none => failHere .escapeUnfinished
  | some '{' => do
    let text ← untilBrace (fun _ => true) [] (← get).rest
    if ← atEnd then failHere .escapeUnfinished
    skip
    let (query, opposite) := propertyQuery text
    return .named (.property (← since start) query (negated != opposite))
  | some c =>
    if c = '\\' then failChar .propertyFormInvalid
    else do
      next
      return .named (.property (← since start) (.named c.toString) negated)

/-- The class that a letter names, and whether it names the opposite. -/
def shorthandClass? : Char → Option (ShorthandClass × Bool)
  | 'd' => some (.digit, false)
  | 's' => some (.space, false)
  | 'w' => some (.word, false)
  | 'D' => some (.digit, true)
  | 'S' => some (.space, true)
  | 'W' => some (.word, true)
  | _ => none

def controlChar? : Char → Option Char
  | 'a' => some '\x07'
  | 'f' => some '\x0c'
  | 't' => some '\t'
  | 'n' => some '\n'
  | 'r' => some '\r'
  | 'v' => some '\x0b'
  | _ => none

/-- The assertion that a word behind `\b` names: a side of a word boundary. -/
def boundarySide? : String → Option Assertion
  | "start" => some .wordStart
  | "end" => some .wordEnd
  | "start-half" => some .wordStartHalf
  | "end-half" => some .wordEndHalf
  | _ => none

/-- The assertion that a letter or a sign names, `\b` apart. -/
def assertion? : Char → Option Assertion
  | 'A' => some .textStart
  | 'z' => some .textEnd
  | 'B' => some .noBoundary
  | '<' => some .wordStart
  | '>' => some .wordEnd
  | _ => none

def isBoundaryChar (c : Char) : Bool := c.isAlpha || c = '-'

/-- Reads the characters of such a word. -/
def boundaryWord (done : List Char) : List Char → Scanner (List Char)
  | [] => return done.reverse
  | _ :: bound => do
    match ← peek? with
    | some c =>
      if isBoundaryChar c then do next; boundaryWord (c :: done) bound else return done.reverse
    | none => return done.reverse

/-- Reads the braces behind `\b`, if they are next. Braces that do not begin with a letter or a
hyphen are left to be a repetition. -/
def boundaryBraces (start : Nat) : Scanner Assertion := do
  match ← peek? with
  | some '{' => do
    let before ← get
    next
    match ← peek? with
    | none => failSince .boundaryOrCountUnfinished start
    | some c =>
      if !isBoundaryChar c then do set before; return .boundary
      else do
        let first ← index
        let word ← boundaryWord [] (← get).rest
        if (← peek?) == some '}' then do
          let stop ← index
          skip
          match boundarySide? (String.ofList word) with
          | some side => return side
          | none => fail .boundaryUnknown ⟨first, stop⟩
        else failSince .boundaryUnclosed before.index
  | _ => return .boundary

/-- Reads an escape whose backslash is next. -/
def escape : Scanner Tree := do
  let start ← index
  skip
  match ← peek? with
  | none => failSince .escapeUnfinished start
  | some c =>
    if c.isDigit then do
      skip
      failSince .backreference start
    else if c = 'x' ∨ c = 'u' ∨ c = 'U' then codePoint start
    else if c = 'p' ∨ c = 'P' then propertyClass start
    else do
      skip
      let span ← since start
      if let some (kind, negated) := shorthandClass? c then
        return .named (.shorthand span kind negated)
      if isMeta c || isPlainEscape c then return .literal { span, char := c, isByte := false }
      if let some char := controlChar? c then return .literal { span, char, isByte := false }
      if let some kind := assertion? c then return .assertion span kind
      if c = 'b' then do
        let kind ← boundaryBraces start
        return .assertion (← since start) kind
      else fail .escapeUnknown span

end GrammarArtifact.Pattern.Scanner
