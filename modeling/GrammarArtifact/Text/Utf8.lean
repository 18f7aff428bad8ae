import GrammarArtifact.Text.CharSet

/-! # Ranges of characters as ranges of bytes

A range of characters is cut into pieces whose UTF-8 forms are all sequences of bytes from one
range each. Pieces keep their order, so sequences that begin alike stand side by side. -/

namespace GrammarArtifact.Utf8

/-- The bytes from `lo` to `hi`, both included. -/
structure ByteRange where
  lo : Nat
  hi : Nat
  deriving DecidableEq, Hashable, Repr

def encode (n : Nat) : List Nat :=
  let tail (block : Nat) := 0x80 + n / block % 0x40
  if n < 0x80 then [n]
  else if n < 0x800 then [0xC0 + n / 0x40, tail 1]
  else if n < 0x10000 then [0xE0 + n / 0x1000, tail 0x40, tail 1]
  else [0xF0 + n / 0x40000, tail 0x1000, tail 0x40, tail 1]

/-- The ranges of characters whose forms are equally long; surrogates lie in none. -/
def forms : List CodeRange :=
  [⟨0, 0x7F⟩, ⟨0x80, 0x7FF⟩, ⟨0x800, 0xD7FF⟩, ⟨0xE000, 0xFFFF⟩, ⟨0x10000, 0x10FFFF⟩]

/-- Cuts a range so that a piece that crosses from one block to another consists of whole blocks,
for each of the given block sizes, the smallest first. -/
def cut : List Nat → CodeRange → List CodeRange
  | [], r => [r]
  | block :: larger, r =>
    if r.lo / block = r.hi / block then [r]
    else
      let first := (r.lo + block - 1) / block * block
      let last := (r.hi + 1) / block * block
      let front := if r.lo < first then [CodeRange.mk r.lo (first - 1)] else []
      let back := if last ≤ r.hi then [CodeRange.mk last r.hi] else []
      front ++ (if first < last then cut larger ⟨first, last - 1⟩ else []) ++ back

/-- The sequences of byte ranges that make up a range of characters. -/
def sequencesOfRange (r : CodeRange) : List (List ByteRange) :=
  let parts := forms.filterMap fun form =>
    let lo := max r.lo form.lo
    let hi := min r.hi form.hi
    if lo ≤ hi then some (CodeRange.mk lo hi) else none
  (parts.flatMap (cut [0x40, 0x1000, 0x40000])).map fun piece =>
    (encode piece.lo).zipWith ByteRange.mk (encode piece.hi)

def sequences (s : CharSet) : List (List ByteRange) := s.ranges.flatMap sequencesOfRange

end GrammarArtifact.Utf8
