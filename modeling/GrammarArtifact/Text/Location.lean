/-! # Places in a text

A place is given to a reader as a line and a column; inside it is a number of bytes from the
start, in the UTF-8 form of the text. -/

namespace GrammarArtifact

/-- A line, counted from one, and the number of bytes before the place on that line. -/
structure Location where
  line : Nat
  column : Nat
  deriving DecidableEq, Repr

namespace Location

/-- The place `bytes` bytes further on in the text that begins at `here`. A place inside the bytes
of one character stays on its line. -/
def advance (here : Location) : List Char → Nat → Location
  | [], bytes => { here with column := here.column + bytes }
  | c :: rest, bytes =>
    if bytes < c.utf8Size then { here with column := here.column + bytes }
    else if c = '\n' then advance ⟨here.line + 1, 0⟩ rest (bytes - 1)
    else advance { here with column := here.column + c.utf8Size } rest (bytes - c.utf8Size)

def ofOffset (text : List Char) (offset : Nat) : Location := advance ⟨1, 0⟩ text offset

/-- The words that end a message about this place. -/
def suffix (here : Location) : String :=
  s!" at line {here.line} column {here.column}"

end Location
end GrammarArtifact
