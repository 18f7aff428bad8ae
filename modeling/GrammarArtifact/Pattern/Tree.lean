import GrammarArtifact.Pattern.Problem

/-! # The syntax of patterns

What a pattern says, with the span of each part. A part keeps the way it is written only where its
meaning depends on it. -/

namespace GrammarArtifact.Pattern

inductive ShorthandClass where
  | digit
  | space
  | word
  deriving DecidableEq, Repr

/-- The classes that a name between `[:` and `:]` names; their members are ASCII. -/
inductive AsciiClass where
  | alnum
  | alpha
  | ascii
  | blank
  | cntrl
  | digit
  | graph
  | lower
  | print
  | punct
  | space
  | upper
  | word
  | xdigit
  deriving DecidableEq, Repr

/-- The property that `\p` asks for: one name, or a property and its value. -/
inductive PropertyQuery where
  | named (name : String)
  | valued (property value : String)
  deriving DecidableEq, Repr

/-- A character. One that is written as `\x` with two digits is a byte where bytes are matched. -/
structure Literal where
  span : Span
  char : Char
  isByte : Bool
  deriving Repr

inductive NamedClass where
  | shorthand (span : Span) (kind : ShorthandClass) (negated : Bool)
  | property (span : Span) (query : PropertyQuery) (negated : Bool)
  deriving Repr

/-- What a part that matches no character asks of its place: an end of the text or of a line, or a
side of a word. A half looks at one character alone. -/
inductive Assertion where
  | textStart
  | textEnd
  | lineStart
  | lineEnd
  | boundary
  | noBoundary
  | wordStart
  | wordEnd
  | wordStartHalf
  | wordEndHalf
  deriving DecidableEq, Repr

inductive SetOp where
  | intersection
  | difference
  | symmetricDifference
  deriving DecidableEq, Repr

inductive ClassSet where
  | empty (span : Span)
  | literal (literal : Literal)
  | range (span : Span) (first last : Literal)
  | ascii (span : Span) (kind : AsciiClass) (negated : Bool)
  | named (named : NamedClass)
  | bracketed (span : Span) (negated : Bool) (inner : ClassSet)
  | union (span : Span) (items : List ClassSet)
  | combined (span : Span) (op : SetOp) (left right : ClassSet)
  deriving Repr

namespace ClassSet

def span : ClassSet → Span
  | .empty span => span
  | .literal l => l.span
  | .range span _ _ => span
  | .ascii span _ _ => span
  | .named (.shorthand span _ _) => span
  | .named (.property span _ _) => span
  | .bracketed span _ _ => span
  | .union span _ => span
  | .combined span _ _ _ => span

end ClassSet

inductive Flag where
  | ignoreCase
  | multiLine
  | dotMatchesNewLine
  | swapGreed
  | unicode
  | crlf
  | ignoreBlanks
  deriving DecidableEq, Repr

/-- An item in a list of flags: a flag, or the sign behind which flags are cleared. -/
inductive FlagItem where
  | negation
  | flag (flag : Flag)
  deriving DecidableEq, Repr

/-- What a list of flags says about one: set, cleared or nothing. -/
def flagState (flag : Flag) : (clears : Bool) → List FlagItem → Option Bool
  | _, [] => none
  | _, .negation :: rest => flagState flag true rest
  | clears, .flag f :: rest => if f = flag then some !clears else flagState flag clears rest

inductive GroupKind where
  | capture
  | plain (flags : List FlagItem)
  deriving Repr

inductive Tree where
  | empty (span : Span)
  | flags (span : Span) (items : List FlagItem)
  | literal (literal : Literal)
  | dot (span : Span)
  | assertion (span : Span) (kind : Assertion)
  | named (named : NamedClass)
  | bracketed (span : Span) (negated : Bool) (inner : ClassSet)
  | repetition (span : Span) (min : Nat) (max : Option Nat) (reluctant : Bool) (sub : Tree)
  | group (span : Span) (kind : GroupKind) (sub : Tree)
  | alternation (span : Span) (branches : List Tree)
  | concat (span : Span) (parts : List Tree)
  deriving Repr

def Tree.span : Tree → Span
  | .empty span => span
  | .flags span _ => span
  | .literal l => l.span
  | .dot span => span
  | .assertion span _ => span
  | .named (.shorthand span _ _) => span
  | .named (.property span _ _) => span
  | .bracketed span _ _ => span
  | .repetition span _ _ _ _ => span
  | .group span _ _ => span
  | .alternation span _ => span
  | .concat span _ => span

end GrammarArtifact.Pattern
