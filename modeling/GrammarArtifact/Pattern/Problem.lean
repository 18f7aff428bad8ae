/-! # What can be wrong with a pattern

A problem is a cause; where it lies is a span of the pattern, counted in characters. -/

namespace GrammarArtifact.Pattern

/-- A stretch of a pattern: the number of characters before it and before its end. -/
structure Span where
  start : Nat
  stop : Nat
  deriving DecidableEq, Inhabited, Repr

inductive Problem where
  | classEscapeInvalid
  | classRangeInvalid
  | classRangeNotLiteral
  | classUnclosed
  | decimalInvalid
  | hexEmpty
  | hexNotCharacter
  | hexDigitInvalid
  | escapeUnfinished
  | escapeUnknown
  | flagNegationDangling
  | flagRepeated
  | flagNegationRepeated
  | flagUnfinished
  | flagUnknown
  | groupNameRepeated
  | groupNameEmpty
  | groupNameInvalid
  | groupNameUnclosed
  | groupUnclosed
  | groupUnopened
  | nestedTooDeep
  | countRangeInvalid
  | countEmpty
  | countUnclosed
  | repetitionMissing
  | boundaryUnclosed
  | boundaryUnknown
  | boundaryOrCountUnfinished
  | backreference
  | lookAround
  | propertyFormInvalid
  | characterBeyondBytes
  | invalidUtf8
  | propertyUnknown
  | propertyValueUnknown
  deriving DecidableEq, Repr

def nestingLimit : Nat := 250

def Problem.message : Problem → String
  | .classEscapeInvalid => "invalid escape sequence found in character class"
  | .classRangeInvalid => "invalid character class range, the start must be <= the end"
  | .classRangeNotLiteral => "invalid range boundary, must be a literal"
  | .classUnclosed => "unclosed character class"
  | .decimalInvalid => "decimal literal invalid"
  | .hexEmpty => "hexadecimal literal empty"
  | .hexNotCharacter => "hexadecimal literal is not a Unicode scalar value"
  | .hexDigitInvalid => "invalid hexadecimal digit"
  | .escapeUnfinished => "incomplete escape sequence, reached end of pattern prematurely"
  | .escapeUnknown => "unrecognized escape sequence"
  | .flagNegationDangling => "dangling flag negation operator"
  | .flagRepeated => "duplicate flag"
  | .flagNegationRepeated => "flag negation operator repeated"
  | .flagUnfinished => "expected flag but got end of regex"
  | .flagUnknown => "unrecognized flag"
  | .groupNameRepeated => "duplicate capture group name"
  | .groupNameEmpty => "empty capture group name"
  | .groupNameInvalid => "invalid capture group character"
  | .groupNameUnclosed => "unclosed capture group name"
  | .groupUnclosed => "unclosed group"
  | .groupUnopened => "unopened group"
  | .nestedTooDeep =>
    s!"exceed the maximum number of nested parentheses/brackets ({nestingLimit})"
  | .countRangeInvalid => "invalid repetition count range, the start must be <= the end"
  | .countEmpty => "repetition quantifier expects a valid decimal"
  | .countUnclosed => "unclosed counted repetition"
  | .repetitionMissing => "repetition operator missing expression"
  | .boundaryUnclosed =>
    "special word boundary assertion is either unclosed or contains an invalid character"
  | .boundaryUnknown =>
    "unrecognized special word boundary assertion, valid choices are: start, end, start-half " ++
      "or end-half"
  | .boundaryOrCountUnfinished =>
    "found either the beginning of a special word boundary or a bounded repetition on a \\b " ++
      "with an opening brace, but no closing brace"
  | .backreference => "backreferences are not supported"
  | .lookAround => "look-around, including look-ahead and look-behind, is not supported"
  | .propertyFormInvalid => "invalid Unicode character class"
  | .characterBeyondBytes => "Unicode not allowed here"
  | .invalidUtf8 => "pattern can match invalid UTF-8"
  | .propertyUnknown => "Unicode property not found"
  | .propertyValueUnknown => "Unicode property value not found"

/-- A problem, where it lies, and the place that it clashes with if there is one. -/
structure Fault where
  problem : Problem
  span : Span
  other? : Option Span := none
  deriving DecidableEq, Repr

end GrammarArtifact.Pattern
