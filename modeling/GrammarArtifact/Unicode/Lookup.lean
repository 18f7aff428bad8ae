import GrammarArtifact.Unicode.Age
import GrammarArtifact.Unicode.Boundary
import GrammarArtifact.Unicode.Casing
import GrammarArtifact.Unicode.Script
import GrammarArtifact.Unicode.Table

/-! # Classes of characters by name

Names are compared loosely: case, blanks, underscores, hyphens and a leading `is` do not count. A
single name is that of a property that is true or false of a character, of a general category or
of a script; a pair names a property and one of its values. -/

namespace GrammarArtifact.Unicode

inductive LookupError where
  | unknownProperty
  | unknownValue
  deriving DecidableEq, Repr

/-- The loose form of a name. What is left of `isc` is `c`, which is a name of its own, so that
name keeps its front. -/
def loosen (name : String) : String :=
  let chars := name.toList
  let startsWithIs := (chars.take 2).map Char.toLower = ['i', 's']
  let body := if startsWithIs then chars.drop 2 else chars
  let kept := body.filter fun c => c.toNat < 0x80 && !"_- ".toList.contains c
  let loose := String.ofList (kept.map Char.toLower)
  if startsWithIs && loose == "c" then "isc" else loose

/-- The class of a general category by a loose name. -/
def categoryClass? (name : String) : Option (Except LookupError CharSet) :=
  match name with
  | "any" => some (.ok (CharSet.ofRange 0 CharSet.top).characters)
  | "ascii" => some (.ok (.ofRange 0 0x7F))
  | "assigned" => some (.ok ((category "Cn").complement CharSet.top).characters)
  | _ => (nameOf? categoryNames name).map fun short =>
    if short = "Cs" then .error .unknownValue else .ok (category short)

/-- The class that a value names in a table. -/
def valueClass (names ranges : List (String × List String)) (value : String) :
    Except LookupError CharSet :=
  match (nameOf? names value).bind (rangesOf? ranges) with
  | some set => .ok set
  | none => .error .unknownValue

/-- The characters that are used with a script. -/
def scriptExtensions (value : String) : Except LookupError CharSet :=
  match nameOf? scriptNames value with
  | none => .error .unknownValue
  | some name =>
    match (rangesOf? scriptExtensionRanges name).orElse fun _ => rangesOf? scriptRanges name with
    | some set => .ok set
    | none => .error .unknownValue

/-- The characters that a version has, which are those that it and the versions before it added. -/
def ageClass (value : String) : Except LookupError CharSet :=
  match nameOf? ageNames value with
  | none => .error .unknownValue
  | some name =>
    let before := ageRanges.takeWhile fun entry => entry.1 != name
    match rangesOf? ageRanges name with
    | some set => .ok (CharSet.unions (set :: before.map fun entry => .ofLines entry.2))
    | none => .error .unknownValue

/-- The class of a single name. Three short names are both those of a property and of a category;
they mean the category. -/
def namedClass (name : String) : Except LookupError CharSet :=
  let loose := loosen name
  let property? := if ["cf", "sc", "lc"].contains loose then none else nameOf? propertyNames loose
  match property? with
  | some property =>
    match rangesOf? propertyRanges property with
    | some set => .ok set
    | none => .error .unknownProperty
  | none =>
    match categoryClass? loose with
    | some answer => answer
    | none =>
      match nameOf? scriptNames loose with
      | none => .error .unknownProperty
      | some script => (rangesOf? scriptRanges script).elim (.error .unknownValue) .ok

/-- The class of a property and a value. -/
def valuedClass (property value : String) : Except LookupError CharSet :=
  let value := loosen value
  match nameOf? propertyNames (loosen property) with
  | none => .error .unknownProperty
  | some "General_Category" => (categoryClass? value).getD (.error .unknownValue)
  | some "Script" => valueClass scriptNames scriptRanges value
  | some "Script_Extensions" => scriptExtensions value
  | some "Age" => ageClass value
  | some "Grapheme_Cluster_Break" => valueClass graphemeBreakNames graphemeBreakRanges value
  | some "Word_Break" => valueClass wordBreakNames wordBreakRanges value
  | some "Sentence_Break" => valueClass sentenceBreakNames sentenceBreakRanges value
  | some _ => .error .unknownValue

def wordCharacters : CharSet :=
  CharSet.unions [property "Alphabetic", category "M", category "Nd", category "Pc",
    property "Join_Control"]

def orbits : List (List Nat) :=
  foldOrbits.flatMap fun line => readOrbits line.toList 0 []
where
  readOrbits : List Char → Nat → List Nat → List (List Nat)
    | [], n, members => [n :: members]
    | c :: rest, n, members =>
      if c = '=' then readOrbits rest 0 (n :: members)
      else match CharSet.hexDigit? c with
        | some d => readOrbits rest (16 * n + d) members
        | none => (n :: members) :: readOrbits rest 0 []

/-- A set with all characters that differ from a member in case alone. -/
def foldCase (s : CharSet) : CharSet :=
  let touched := orbits.filter fun orbit => orbit.any s.contains
  s.union (.ofRanges (touched.flatten.map fun c => ⟨c, c⟩))

/-- The same for the letters of ASCII. -/
def foldAsciiCase (s : CharSet) : CharSet :=
  let shift (lo hi : Nat) (by_ : Int) : CharSet :=
    ⟨(s.inter (.ofRange lo hi)).ranges.map fun r => ⟨(r.lo + by_).toNat, (r.hi + by_).toNat⟩⟩
  CharSet.unions [s, shift 0x41 0x5A 32, shift 0x61 0x7A (-32)]

end GrammarArtifact.Unicode
