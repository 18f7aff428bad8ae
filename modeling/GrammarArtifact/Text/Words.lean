import GrammarArtifact.Unicode.Table

/-! # The words of a name

What is neither a letter nor a digit separates words. Between separators a word ends before a
capital letter that follows a small one, and a row of capitals ends before its last letter if a
small one comes next: `loadXMLFile` has the words `load`, `XML` and `File`. -/

namespace GrammarArtifact.Words

def alphanumeric : CharSet := (Unicode.property "Alphabetic").union (Unicode.category "N")

def lowercase : CharSet := Unicode.property "Lowercase"

def uppercase : CharSet := Unicode.property "Uppercase"

def isLower (c : Char) : Bool := lowercase.contains c.toNat

def isUpper (c : Char) : Bool := uppercase.contains c.toNat

/-- The case of the last cased letter in a part of a word. -/
inductive LetterCase where
  | uncased
  | lower
  | upper
  deriving DecidableEq, Repr

/-- A word as it is collected, with its last letter first; none if it is empty. -/
def finished (word : List Char) : List String :=
  if word.isEmpty then [] else [String.ofList word.reverse]

/-- The words of the characters, the first of which continues a word of which the last letters have
the given case. -/
def cut (word : List Char) (last : LetterCase) : List Char → List String
  | [] => finished word
  | c :: rest =>
    let now := if isLower c then .lower else if isUpper c then .upper else last
    if !alphanumeric.contains c.toNat then finished word ++ cut [] .uncased rest
    else if now = .lower && rest.head?.any isUpper then
      finished (c :: word) ++ cut [] .uncased rest
    else if last = .upper && isUpper c && rest.head?.any isLower then
      finished word ++ cut [c] .uncased rest
    else cut (c :: word) now rest

def ofName (name : String) : List String := cut [] .uncased name.toList

/-- The words of a name with their ASCII letters in small form and underscores between them. -/
def joined (name : String) : String :=
  String.intercalate "_" ((ofName name).map String.toLower)

end GrammarArtifact.Words
