import GrammarArtifact.Json.Container

/-! # Records

A record is written as an object with known keys, in any order and among keys that nobody knows,
or as a list of the values in the order of the fields. A key may stand once. -/

namespace GrammarArtifact.Json

/-- A field of a record of type `α`: how its value is read into the record. -/
structure Field (α : Type) where
  name : String
  required : Bool
  read : α → Reader α

/-- The form of a record: what messages call it, its fields, and the record in which every field
is absent. -/
structure RecordForm (α : Type) where
  title : String
  fields : List (Field α)
  blank : α

/-- What messages expect where a record with too few values stands. -/
def RecordForm.extent {α : Type} (form : RecordForm α) : String :=
  form.title ++ s!" with {form.fields.length} elements"

namespace Reader

variable {α : Type}

/-- Reads the values of the fields that are left, in their order. A list that ends too early is
told the place of the first required field it lacks. -/
def values (extent : String) : List (Field α) → (place : Nat) → α → Reader α
  | [], _, record => return record
  | field :: more, place, record => do
    if ← nextElement (place = 0) then values extent more (place + 1) (← field.read record)
    else if field.required then failRecord (.wrongLength place extent)
    else values extent more (place + 1) record

/-- Reads the members that are left in an object. `seen` holds the known keys that stood. -/
def members (fields : List (Field α)) : List Char → (first : Bool) → (seen : List String) → α →
    Reader (List String × α)
  | [], _, _, _ => fail .endInObject
  | _ :: bound, first, seen, record => do
    if ← nextKey first then do
      let key ← string
      match fields.find? fun field => field.name == key with
      | none => do
        colon
        skipValue
        members fields bound false seen record
      | some field =>
        if seen.contains key then failRecord (.repeatedField key)
        else do
          colon
          members fields bound false (key :: seen) (← field.read record)
    else return (seen, record)

/-- Reads the members of an object; every required field has to be among them. -/
def fields (form : RecordForm α) : Reader α := do
  let (seen, record) ← members form.fields (← get).rest true [] form.blank
  match form.fields.find? fun field => field.required && !seen.contains field.name with
  | none => return record
  | some field => failRecord (.missingField field.name)

/-- Reads a record in one of its two forms. -/
def record (room : Nat) (form : RecordForm α) : Reader α := do
  match ← peekToken? with
  | some '[' => enclosed room .list (values form.extent form.fields 0 form.blank)
  | some '{' => enclosed room .object (fields form)
  | _ => wrongKind form.title

end Reader
end GrammarArtifact.Json
