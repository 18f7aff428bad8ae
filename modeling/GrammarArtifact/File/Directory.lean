/-! # Files in a working directory

A path leads from the working directory through one directory after the other. Nothing is known of
what lies outside of the working directory, so only directories are found there. -/

namespace GrammarArtifact

/-- Why a file cannot be read as a text. -/
inductive FileProblem where
  | missing
  | isDirectory
  | notDirectory
  | notText
  /-- Anything else, in the words of the system. -/
  | other (description : String)
  deriving DecidableEq, Repr

def FileProblem.message : FileProblem → String
  | .missing => "No such file or directory (os error 2)"
  | .isDirectory => "Is a directory (os error 21)"
  | .notDirectory => "Not a directory (os error 20)"
  | .notText => "stream did not contain valid UTF-8"
  | .other description => description

def decodeText (bytes : ByteArray) : Except FileProblem String :=
  match String.fromUTF8? bytes with
  | some text => .ok text
  | none => .error .notText

/-- The names from a directory down to something in it. -/
abbrev Path := List String

/-- The files under a working directory. -/
structure Directory where
  files : List (Path × ByteArray)

namespace Directory

def ofFiles (files : List (String × ByteArray)) : Directory :=
  ⟨files.map fun (path, bytes) => (path.splitOn "/", bytes)⟩

/-- Where a path has led so far. -/
inductive Place where
  /-- The working directory or a directory in it. -/
  | inside (path : Path)
  /-- A directory outside of the working directory. -/
  | outside
  | file (bytes : ByteArray)

/-- What a name in a directory names. -/
def enter (d : Directory) (path : Path) : Except FileProblem Place :=
  match d.files.lookup path with
  | some bytes => .ok (.file bytes)
  | none =>
    if d.files.any fun entry => path.isPrefixOf entry.1 then .ok (.inside path)
    else .error .missing

/-- Goes one part of a path further. An empty part and a point stay where they are, and two points
lead up. -/
def step (d : Directory) (place : Place) (part : String) : Except FileProblem Place :=
  match place with
  | .file _ => .error .notDirectory
  | .inside path =>
    if part = "" ∨ part = "." then .ok place
    else if part = ".." then .ok (if path.isEmpty then .outside else .inside path.dropLast)
    else d.enter (path ++ [part])
  | .outside =>
    if part = "" ∨ part = "." ∨ part = ".." then .ok .outside else .error .missing

def read (d : Directory) (path : String) : Except FileProblem ByteArray := do
  if path.isEmpty then throw .missing
  let start := if path.startsWith "/" then Place.outside else .inside []
  match ← (path.splitOn "/").foldlM d.step start with
  | .file bytes => return bytes
  | .inside _ | .outside => throw .isDirectory

end Directory
end GrammarArtifact
