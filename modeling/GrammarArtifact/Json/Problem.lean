import GrammarArtifact.Text.Location
import GrammarArtifact.Text.Quoted

/-! # What can be wrong with a JSON document

A problem is a cause. `Problem.message` gives the words, and the place is added where the problem
is reported. -/

namespace GrammarArtifact.Json

/-- What stands in a document where something else was expected. -/
inductive Found where
  | null
  | boolean (b : Bool)
  | integer (n : Int)
  | decimal (digits : String)
  | text (s : String)
  | sequence
  | map
  deriving DecidableEq, Repr

def Found.describe : Found → String
  | .null => "null"
  | .boolean b => s!"boolean `{b}`"
  | .integer n => s!"integer `{n}`"
  | .decimal digits => s!"floating point `{digits}`"
  | .text s => s!"string {quoted s}"
  | .sequence => "sequence"
  | .map => "map"

inductive Problem where
  | endInList
  | endInObject
  | endInString
  | endInValue
  | colonMissing
  | listSeparatorMissing
  | objectSeparatorMissing
  | wordMisspelt
  | valueMissing
  | badEscape
  | badNumber
  | numberTooLarge
  | controlCharacter
  | keyNotString
  | loneSurrogate
  | trailingComma
  | trailingText
  | surrogateUnfinished
  | tooDeep
  | wrongKind (found : Found) (expected : String)
  | unknownName (name : String) (known : List String)
  | missingField (name : String)
  | repeatedField (name : String)
  | wrongLength (length : Nat) (expected : String)
  | noForm (title : String)
  deriving DecidableEq, Repr

/-- A name as messages show names of the format. -/
def ticked (name : String) : String := "`" ++ name ++ "`"

def Problem.message : Problem → String
  | .endInList => "EOF while parsing a list"
  | .endInObject => "EOF while parsing an object"
  | .endInString => "EOF while parsing a string"
  | .endInValue => "EOF while parsing a value"
  | .colonMissing => "expected `:`"
  | .listSeparatorMissing => "expected `,` or `]`"
  | .objectSeparatorMissing => "expected `,` or `\x7d`"
  | .wordMisspelt => "expected ident"
  | .valueMissing => "expected value"
  | .badEscape => "invalid escape"
  | .badNumber => "invalid number"
  | .numberTooLarge => "number out of range"
  | .controlCharacter => "control character (\\u0000-\\u001F) found while parsing a string"
  | .keyNotString => "key must be a string"
  | .loneSurrogate => "lone leading surrogate in hex escape"
  | .trailingComma => "trailing comma"
  | .trailingText => "trailing characters"
  | .surrogateUnfinished => "unexpected end of hex escape"
  | .tooDeep => "recursion limit exceeded"
  | .wrongKind found expected => s!"invalid type: {found.describe}, expected {expected}"
  | .unknownName name known =>
    "unknown variant " ++ ticked name ++ ", expected one of " ++
      String.intercalate ", " (known.map ticked)
  | .missingField name => s!"missing field {ticked name}"
  | .repeatedField name => s!"duplicate field {ticked name}"
  | .wrongLength length expected => s!"invalid length {length}, expected {expected}"
  | .noForm title => s!"data did not match any variant of untagged enum {title}"

end GrammarArtifact.Json
