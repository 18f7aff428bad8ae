/-! # Sets of code points

A set of code points is a list of ranges in increasing order with a gap between any two, so a set
has one list. `normalize` brings any list of ranges into that form and every operation ends with
it or keeps it. -/

namespace GrammarArtifact

/-- The code points from `lo` to `hi`, both included. -/
structure CodeRange where
  lo : Nat
  hi : Nat
  deriving DecidableEq, Inhabited, Repr

structure CharSet where
  ranges : List CodeRange
  deriving DecidableEq, Inhabited, Repr

namespace CharSet

def top : Nat := 0x10FFFF

/-- Joins ranges that overlap or touch; the ranges come with increasing lower ends. -/
def joinRanges : List CodeRange → List CodeRange
  | [] => []
  | r :: rest => go r rest
where
  go (current : CodeRange) : List CodeRange → List CodeRange
    | [] => [current]
    | r :: rest =>
      if r.lo ≤ current.hi + 1 then go ⟨current.lo, max current.hi r.hi⟩ rest
      else current :: go r rest

/-- The set of the code points that lie in one of the ranges; a range whose ends are in the wrong
order holds none. -/
def ofRanges (ranges : List CodeRange) : CharSet :=
  ⟨joinRanges ((ranges.filter fun r => r.lo ≤ r.hi).mergeSort fun a b => a.lo ≤ b.lo)⟩

def empty : CharSet := ⟨[]⟩

def ofRange (lo hi : Nat) : CharSet := ofRanges [⟨lo, hi⟩]

def singleton (c : Nat) : CharSet := ⟨[⟨c, c⟩]⟩

def isEmpty (s : CharSet) : Bool := s.ranges.isEmpty

def contains (s : CharSet) (c : Nat) : Bool := s.ranges.any fun r => r.lo ≤ c && c ≤ r.hi

def single? (s : CharSet) : Option Nat :=
  match s.ranges with
  | [r] => if r.lo = r.hi then some r.lo else none
  | _ => none

def union (s t : CharSet) : CharSet := ofRanges (s.ranges ++ t.ranges)

def unions (sets : List CharSet) : CharSet := ofRanges (sets.flatMap CharSet.ranges)

/-- The ranges of `0` to `last` that the given ranges leave free, from `next` on. -/
def gaps (last : Nat) : Nat → List CodeRange → List CodeRange
  | next, [] => if next ≤ last then [⟨next, last⟩] else []
  | next, r :: rest =>
    if next < r.lo then ⟨next, r.lo - 1⟩ :: gaps last (r.hi + 1) rest
    else gaps last (r.hi + 1) rest

/-- The code points up to `last` that are not in the set. -/
def complement (last : Nat) (s : CharSet) : CharSet := ⟨gaps last 0 s.ranges⟩

def inter (s t : CharSet) : CharSet :=
  ((s.complement top).union (t.complement top)).complement top

def diff (s t : CharSet) : CharSet := s.inter (t.complement top)

def symmDiff (s t : CharSet) : CharSet := (s.diff t).union (t.diff s)

/-- The part of the set that holds characters: surrogate code points are none. -/
def characters (s : CharSet) : CharSet := s.diff (ofRange 0xD800 0xDFFF)

def isAscii (s : CharSet) : Bool := s.ranges.all fun r => r.hi < 0x80

def hexDigit? (c : Char) : Option Nat :=
  if '0' ≤ c ∧ c ≤ '9' then some (c.toNat - '0'.toNat)
  else if 'a' ≤ c ∧ c ≤ 'f' then some (c.toNat - 'a'.toNat + 10)
  else if 'A' ≤ c ∧ c ≤ 'F' then some (c.toNat - 'A'.toNat + 10)
  else none

/-- Reads ranges such as `41-5a 5f`: hexadecimal code points, a hyphen between the ends of a
range and a blank between ranges. -/
def readRanges (text : String) : List CodeRange := go text.toList none 0 []
where
  go : List Char → Option Nat → Nat → List CodeRange → List CodeRange
    | [], lo, n, done => (⟨lo.getD n, n⟩ :: done).reverse
    | c :: rest, lo, n, done =>
      if c = '-' then go rest (some n) 0 done
      else match hexDigit? c with
        | some d => go rest lo (16 * n + d) done
        | none => go rest none 0 (⟨lo.getD n, n⟩ :: done)

/-- The set whose ranges the lines of a table list. -/
def ofLines (lines : List String) : CharSet := ofRanges (lines.flatMap readRanges)

end CharSet
end GrammarArtifact
