import GrammarArtifact.Text.CharSet
import GrammarArtifact.Unicode.Category
import GrammarArtifact.Unicode.Property

/-! # Looking up classes of characters

The data modules hold two kinds of tables: names with their other spellings, and names with
ranges. A class is found by going from a spelling to the name and from the name to the ranges. -/

namespace GrammarArtifact.Unicode

/-- The name that has this spelling among its own. -/
def nameOf? (names : List (String × List String)) (spelling : String) : Option String :=
  (names.find? fun entry => entry.2.contains spelling).map Prod.fst

/-- The class that a table of ranges holds under a name. -/
def rangesOf? (table : List (String × List String)) (name : String) : Option CharSet :=
  (table.lookup name).map CharSet.ofLines

/-- The categories that a name stands for: itself, the cased letters for `LC`, or all that begin
with its letter. -/
def categoriesUnder (name : String) : List String :=
  if name = "LC" then ["Ll", "Lt", "Lu"]
  else (categoryRanges.map Prod.fst).filter fun part => name.isPrefixOf part

def category (name : String) : CharSet :=
  CharSet.unions ((categoriesUnder name).filterMap (rangesOf? categoryRanges))

/-- The characters that have a property; none if the name is not that of a property. -/
def property (name : String) : CharSet := (rangesOf? propertyRanges name).getD .empty

/-- The characters that a display does not show on their own: controls, formats, private and
unassigned code points and blanks, the space apart. -/
def unprintable : CharSet :=
  (CharSet.unions (["C", "Z"].map category)).diff (.singleton ' '.toNat)

def graphemeExtend : CharSet := property "Grapheme_Extend"

end GrammarArtifact.Unicode
