import GrammarArtifact.Pattern.Problem

/-! # Reports about patterns

A report shows the pattern with marks under the spans of the problem. A pattern of one line is
indented; the lines of a longer one are numbered and stand between dividers, and a span that
covers several lines is told in words. -/

namespace GrammarArtifact.Pattern

/-- A place in a pattern: its line and its column, both counted from one. -/
structure Place where
  line : Nat
  column : Nat

def Place.after (chars : List Char) : Place :=
  chars.foldl (fun here c => if c = '\n' then ⟨here.line + 1, 1⟩ else ⟨here.line, here.column + 1⟩)
    ⟨1, 1⟩

structure Mark where
  start : Place
  stop : Place

def Span.mark (pattern : List Char) (span : Span) : Mark :=
  ⟨.after (pattern.take span.start), .after (pattern.take span.stop)⟩

def Mark.isOnOneLine (mark : Mark) : Bool := mark.start.line = mark.stop.line

/-- A line without the carriage return before its end. -/
def dropReturn (line : List Char) : List Char :=
  if line.getLast? = some '\r' then line.dropLast else line

/-- The lines of a text, each ended by a line break or by the end of the text. No line follows the
last break. `current` holds the line so far, backwards. -/
def splitLines (current : List Char) : List Char → List (List Char)
  | [] => if current.isEmpty then [] else [current.reverse]
  | '\n' :: rest => dropReturn current.reverse :: splitLines [] rest
  | c :: rest => splitLines (c :: current) rest

/-- Carets under the marks of one line; `column` is the number of characters written so far. -/
def carets (column : Nat) : List Mark → List Char
  | [] => []
  | mark :: rest =>
    let gap := mark.start.column - 1 - column
    let width := max 1 (mark.stop.column - mark.start.column)
    List.replicate gap ' ' ++ List.replicate width '^' ++ carets (column + gap + width) rest

/-- The width of line numbers: none for a pattern of one line. A span may lie behind the last line
break, which makes one more line. -/
def numberWidth (pattern : List Char) : Nat :=
  let count := (splitLines [] pattern).length + (if pattern.getLast? = some '\n' then 1 else 0)
  if count ≤ 1 then 0 else (toString count).length

/-- What stands before a line: its number, or an indentation. -/
def margin (width line : Nat) : List Char :=
  if width = 0 then List.replicate 4 ' '
  else
    let digits := (toString line).toList
    List.replicate (width - digits.length) ' ' ++ digits ++ [':', ' ']

def markedLine (width : Nat) (marks : List Mark) (line : Nat) (text : List Char) : List Char :=
  let here := marks.filter fun mark => mark.start.line = line
  let below :=
    if here.isEmpty then []
    else List.replicate (if width = 0 then 4 else width + 2) ' ' ++ carets 0 here ++ ['\n']
  margin width line ++ text ++ ['\n'] ++ below

def markedLines (width : Nat) (marks : List Mark) (line : Nat) : List (List Char) → List Char
  | [] => []
  | text :: rest => markedLine width marks line text ++ markedLines width marks (line + 1) rest

def Mark.words (mark : Mark) : String :=
  let stopColumn := mark.stop.column - 1
  s!"on line {mark.start.line} (column {mark.start.column}) through line {mark.stop.line} " ++
    s!"(column {stopColumn})"

/-- The report about a fault. Marks are ordered by where they begin. -/
def Fault.report (fault : Fault) (pattern : String) : String :=
  let chars := pattern.toList
  let spans := (fault.span :: fault.other?.toList).mergeSort fun a b => a.start ≤ b.start
  let marks := spans.map (Span.mark chars)
  let (short, long) := marks.partition Mark.isOnOneLine
  let shown := String.ofList (markedLines (numberWidth chars) short 1 (splitLines [] chars))
  let divider := if chars.contains '\n' then String.ofList (List.replicate 79 '~') ++ "\n" else ""
  let notes := if long.isEmpty then "" else String.intercalate "\n" (long.map Mark.words) ++ "\n"
  "regex parse error:\n" ++ divider ++ shown ++ divider ++ notes ++ "error: " ++
    fault.problem.message

end GrammarArtifact.Pattern
