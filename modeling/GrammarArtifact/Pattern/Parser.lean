import GrammarArtifact.Pattern.Group

/-! # Reading a pattern

The parts of a pattern are read from left to right. The groups and alternations that are open are
kept in a list, the innermost first. -/

namespace GrammarArtifact.Pattern

namespace Scanner

/-- The parts of a branch that were read so far, the last first. -/
structure Branch where
  start : Nat
  parts : List Tree := []

def Branch.toTree (branch : Branch) (stop : Nat) : Tree :=
  match branch.parts with
  | [] => .empty ⟨branch.start, stop⟩
  | [part] => part
  | parts => .concat ⟨branch.start, stop⟩ parts.reverse

/-- A group that is open, with what was read before it and whether blanks were ignored there, or
the branches of an alternation, the last first. -/
inductive Frame where
  | group (before : Branch) (span : Span) (kind : GroupKind) (ignoreBlanks : Bool)
  | alternation (start : Nat) (branches : List Tree)

structure Progress where
  branch : Branch
  frames : List Frame := []
  names : Names := []

/-- Ends a branch before the sign `|`. -/
def Progress.alternate (p : Progress) (stop : Nat) : Progress :=
  let tree := p.branch.toTree stop
  let frames := match p.frames with
    | .alternation start branches :: rest => .alternation start (tree :: branches) :: rest
    | frames => .alternation p.branch.start [tree] :: frames
  { p with branch := { start := stop + 1 }, frames }

/-- The alternation or the branch that ends here, and the frames around it. -/
def Progress.inner (p : Progress) (stop : Nat) : Tree × List Frame :=
  let tree := p.branch.toTree stop
  match p.frames with
  | .alternation start branches :: rest =>
    (.alternation ⟨start, stop⟩ (tree :: branches).reverse, rest)
  | frames => (tree, frames)

/-- Opens a group, or takes a list of flags. -/
def openGroup (p : Progress) : Scanner Progress := do
  let (opened, names) ← groupStart p.names
  let outer := (← get).ignoreBlanks
  match opened with
  | .flags (.flags span items) => do
    modify fun s => { s with ignoreBlanks := (flagState .ignoreBlanks false items).getD outer }
    return { p with branch.parts := .flags span items :: p.branch.parts, names }
  | .flags tree => return { p with branch.parts := tree :: p.branch.parts, names }
  | .group span kind => do
    let state := match kind with
      | .capture => none
      | .plain items => flagState .ignoreBlanks false items
    modify fun s => { s with ignoreBlanks := state.getD outer }
    return { branch := { start := ← index }, frames := .group p.branch span kind outer :: p.frames,
             names }

def closeGroup (p : Progress) : Scanner Progress := do
  let (tree, frames) := p.inner (← index)
  match frames with
  | .group before span kind outer :: rest => do
    modify fun s => { s with ignoreBlanks := outer }
    skip
    let group := Tree.group ⟨span.start, ← index⟩ kind tree
    return { p with branch := { before with parts := group :: before.parts }, frames := rest }
  | _ => failChar .groupUnopened

/-- Ends the pattern. No group may be open. -/
def finish (p : Progress) : Scanner Tree := do
  let (tree, frames) := p.inner (← index)
  match frames with
  | .group _ span _ _ :: _ => fail .groupUnclosed span
  | _ => return tree

/-- Reads a part that is neither bracketed nor a repetition. -/
def simplePart (c : Char) : Scanner Tree := do
  if c = '\\' then escape
  else do
    let span ← charSpan
    skip
    return match c with
      | '.' => .dot span
      | '^' => .assertion span .lineStart
      | '$' => .assertion span .lineEnd
      | char => .literal { span, char, isByte := false }

def part (p : Progress) (c : Char) : Scanner Progress := do
  match c with
  | '(' => openGroup p
  | ')' => closeGroup p
  | '|' => do
    let stop ← index
    skip
    return p.alternate stop
  | '[' => return { p with branch.parts := (← bracketed) :: p.branch.parts }
  | '?' => return { p with branch.parts := ← signRepetition p.branch.parts 0 (some 1) }
  | '*' => return { p with branch.parts := ← signRepetition p.branch.parts 0 none }
  | '+' => return { p with branch.parts := ← signRepetition p.branch.parts 1 none }
  | '{' => return { p with branch.parts := ← countedRepetition p.branch.parts }
  | c => return { p with branch.parts := (← simplePart c) :: p.branch.parts }

def parts (p : Progress) : List Char → Scanner Tree
  | [] => do skipBlanks; finish p
  | _ :: bound => do
    skipBlanks
    match ← peek? with
    | none => finish p
    | some c => do parts (← part p c) bound

end Scanner

mutual

/-- The first part of a set that lies deeper than `room` more levels. -/
def ClassSet.tooDeep? (room : Nat) : ClassSet → Option Span
  | .bracketed span _ inner =>
    match room with
    | 0 => some span
    | room + 1 => inner.tooDeep? room
  | .union span items =>
    match room with
    | 0 => some span
    | room + 1 => ClassSet.anyTooDeep? room items
  | .combined span _ left right =>
    match room with
    | 0 => some span
    | room + 1 => (left.tooDeep? room).orElse fun _ => right.tooDeep? room
  | _ => none

def ClassSet.anyTooDeep? (room : Nat) : List ClassSet → Option Span
  | [] => none
  | set :: rest => (set.tooDeep? room).orElse fun _ => ClassSet.anyTooDeep? room rest

end

mutual

/-- The first part of a pattern that lies deeper than `room` more levels. -/
def Tree.tooDeep? (room : Nat) : Tree → Option Span
  | .bracketed span _ inner =>
    match room with
    | 0 => some span
    | room + 1 => inner.tooDeep? room
  | .repetition span _ _ _ sub =>
    match room with
    | 0 => some span
    | room + 1 => sub.tooDeep? room
  | .group span _ sub =>
    match room with
    | 0 => some span
    | room + 1 => sub.tooDeep? room
  | .alternation span branches =>
    match room with
    | 0 => some span
    | room + 1 => Tree.anyTooDeep? room branches
  | .concat span parts =>
    match room with
    | 0 => some span
    | room + 1 => Tree.anyTooDeep? room parts
  | _ => none

def Tree.anyTooDeep? (room : Nat) : List Tree → Option Span
  | [] => none
  | tree :: rest => (tree.tooDeep? room).orElse fun _ => Tree.anyTooDeep? room rest

end

def parse (pattern : String) : Except Fault Tree := do
  let chars := pattern.toList
  let (tree, _) ← (Scanner.parts { branch := { start := 0 } } chars).run ⟨chars, 0, false⟩
  match tree.tooDeep? nestingLimit with
  | none => return tree
  | some span => throw { problem := .nestedTooDeep, span }

end GrammarArtifact.Pattern
