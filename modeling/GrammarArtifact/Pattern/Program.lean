import Std.Data.HashMap
import GrammarArtifact.Pattern.Parser
import GrammarArtifact.Pattern.Report
import GrammarArtifact.Pattern.Expr
import GrammarArtifact.Text.Utf8

/-! # The size of a pattern's automaton

A pattern is matched by a pair of automata, one that reads a text forwards and one that reads it
backwards. Their states are only counted here: an expression that is repeated a given number of
times is built as often, so a short pattern can be far too large. -/

namespace GrammarArtifact.Pattern

namespace Program

/-- Bytes of a state, of a transition on a range of bytes, and of a branch of a state that offers
several. -/
def stateSize : Nat := 32
def transitionSize : Nat := 8
def branchSize : Nat := 4

def forkSize : Nat := stateSize + 2 * branchSize

def rangesSize (count : Nat) : Nat := stateSize + count * transitionSize

/-! ## Sets of characters -/

/-- The states that read the ends of characters, and the number of each. -/
abbrev Nodes := Std.HashMap (List (Utf8.ByteRange × Nat)) Nat

/-- The number of a state, and the states with it: states with equal transitions are one. -/
def share (transitions : List (Utf8.ByteRange × Nat)) (nodes : Nodes) : Nat × Nodes :=
  match nodes[transitions]? with
  | some n => (n, nodes)
  | none => (nodes.size + 1, nodes.insert transitions (nodes.size + 1))

/-- The sequences grouped by their first range. -/
def groups (sequences : List (List Utf8.ByteRange)) :
    List (Utf8.ByteRange × List (List Utf8.ByteRange)) :=
  sequences.foldr (fun
    | [], rest => rest
    | r :: tail, (r', tails) :: rest =>
      if r = r' then (r, tail :: tails) :: rest else (r, [tail]) :: (r', tails) :: rest
    | r :: tail, [] => [(r, [tail])]) []

/-- Adds the states that read the sequences, which are no longer than `depth`. A sequence that is
at its end goes to state zero. -/
def addNodes : (depth : Nat) → List (List Utf8.ByteRange) → Nodes → Nat × Nodes
  | 0, _, nodes => (0, nodes)
  | depth + 1, sequences, nodes =>
    if sequences.all List.isEmpty then (0, nodes)
    else
      let (transitions, nodes) := (groups sequences).foldl (fun (done, nodes) (r, tails) =>
        let (n, nodes) := addNodes depth tails nodes
        ((r, n) :: done, nodes)) ([], nodes)
      share transitions.reverse nodes

/-- The states of the forward automaton for a set: shared ends, and the state behind. -/
def forwardSet (s : CharSet) : Nat :=
  let nodes := (addNodes 4 (Utf8.sequences s) ∅).2
  nodes.fold (fun total transitions _ => total + rangesSize transitions.length) stateSize

/-- The number of ranges of a sequence that differ from the sequence before it: its front is
shared. -/
def ownRanges : List Utf8.ByteRange → List Utf8.ByteRange → Nat
  | r :: rest, r' :: rest' => if r = r' then ownRanges rest rest' else rest.length + 1
  | rest, _ => rest.length

/-- The states of the backward automaton for a set: a branch for each sequence, and states for the
fronts of sequences, which are read last. -/
def backwardSet (s : CharSet) : Nat :=
  let sequences := Utf8.sequences s
  let states := (sequences.zipWith ownRanges ([] :: sequences)).foldl (· + ·) 0
  2 * stateSize + sequences.length * branchSize + states * stateSize

def setSize (backward : Bool) (s : CharSet) : Nat :=
  if s.isEmpty then stateSize
  else if s.isAscii then stateSize + rangesSize s.ranges.length
  else if backward then backwardSet s
  else forwardSet s

/-! ## Literals -/

/-- The states that tell literals apart by their bytes; a literal that begins another one needs a
state to choose whether to go on. -/
def literalTree : (longest : Nat) → List (List UInt8) → Nat
  | 0, _ => 0
  | longest + 1, words =>
    let open_ := words.filter fun word => !word.isEmpty
    let firsts := (open_.filterMap List.head?).eraseDups
    let below := (firsts.map fun b =>
      literalTree longest (open_.filterMap fun word =>
        if word.head? = some b then some (word.drop 1) else none)).foldl (· + ·) 0
    let own := match firsts with
      | [] => 0
      | [_] => stateSize
      | several => rangesSize several.length
    own + below + (if open_.length < words.length ∧ !firsts.isEmpty then forkSize else 0)

/-- The literals that all branches are, if they all are. -/
def allLiterals? (branches : List Expr) : Option (List (List UInt8)) :=
  branches.mapM fun
    | .literal bytes => some bytes
    | _ => none

/-! ## Expressions -/

/-- The states of a repetition of an expression that takes `size`. -/
def repetitionSize (size : Nat) (canBeEmpty : Bool) (min : Nat) (max : Option Nat) : Nat :=
  match min, max with
  | 0, some 1 => forkSize + size + stateSize
  | 0, none => if canBeEmpty then size + 2 * forkSize + stateSize else forkSize + size
  | min, none => min * size + forkSize
  | min, some max =>
    if min = max then Nat.max (min * size) stateSize
    else
      (if min = 0 then stateSize else min * size) + stateSize + (max - min) * (size + forkSize)

mutual

/-- The states of an expression. Only the forward automaton keeps where a group matched. -/
def size (backward : Bool) : Expr → Nat
  | .empty => stateSize
  | .literal bytes => bytes.length * stateSize
  | .characters set => setSize backward set
  | .assertion _ _ => stateSize
  | .repetition min max _ sub =>
    repetitionSize (size backward sub) (!(sub.minLength.any (0 < ·))) min max
  | .capture sub => size backward sub + (if backward then 0 else 2 * stateSize)
  | .concat parts => sizes backward parts
  | .alternation branches =>
    match allLiterals? branches with
    | some words =>
      let words := if backward then words.map List.reverse else words
      stateSize + literalTree ((words.map List.length).foldl max 0 + 1) words
    | none => 2 * stateSize + branches.length * branchSize + sizes backward branches

def sizes (backward : Bool) : List Expr → Nat
  | [] => 0
  | e :: rest => size backward e + sizes backward rest

end

/-- The states around an expression: those that pass over the text before a match and the one that
ends it, and where the whole matched. -/
def frameSize (backward : Bool) : Nat :=
  forkSize + rangesSize 1 + 2 * stateSize +
    (if backward then 0 else 2 * stateSize)

def totalSize (e : Expr) : Nat :=
  max (frameSize false + size false e) (frameSize true + size true e)

end Program

def sizeLimit : Nat := 10 * 0x100000

def tooLargeMessage : String := s!"Compiled regex exceeds size limit of {sizeLimit} bytes."

/-- Why a pattern cannot be used, or nothing. -/
def complaint? (pattern : String) (ignoreCase : Bool) : Option String :=
  match parse pattern with
  | .error fault => some (fault.report pattern)
  | .ok tree =>
    match tree.expr { ignoreCase } with
    | .error fault => some (fault.report pattern)
    | .ok (e, _) => if sizeLimit < Program.totalSize e then some tooLargeMessage else none

end GrammarArtifact.Pattern
