import GrammarArtifact.Text.Words

/-! # Options on the command line

An option is named by its words, so how they are written does not count: `--Json` is `--json`.
Behind an equals sign stands a value. A switch is on whatever its value is, and it may be given
several times; of several paths the last counts. Every argument belongs to an option. -/

namespace GrammarArtifact.Command

structure Options where
  /-- The file to load; none for the bundled grammar. -/
  grammar : Option String := none
  /-- Print the node types. -/
  json : Bool := false
  /-- Log everything. -/
  verbose : Bool := false
  deriving DecidableEq, Repr

inductive OptionName where
  | grammar
  | json
  | verbose
  deriving DecidableEq, Repr

namespace OptionName

/-- The option with a long name. A name does not begin with a hyphen. -/
def ofLong? (name : String) : Option OptionName :=
  if name.startsWith "-" then none
  else
    match Words.joined name with
    | "grammar" => some .grammar
    | "json" => some .json
    | "verbose" => some .verbose
    | _ => none

def ofShort? (name : String) : Option OptionName := if name = "v" then some .verbose else none

end OptionName

/-- An argument that begins with hyphens. -/
inductive Argument where
  /-- The end of the options. -/
  | stop
  | option (name : OptionName) (value : Option String)

namespace Argument

/-- Splits an argument at its first equals sign. -/
def splitValue (text : List Char) : String × Option String :=
  (String.ofList (text.takeWhile (· ≠ '=')),
    match text.dropWhile (· ≠ '=') with
    | [] => none
    | _ :: value => some (String.ofList value))

def ofText? (text : String) : Option Argument :=
  match text.toList with
  | ['-', '-'] => some .stop
  | '-' :: '-' :: rest =>
    let (name, value) := splitValue rest
    (OptionName.ofLong? name).map (.option · value)
  | '-' :: rest =>
    let (name, value) := splitValue rest
    (OptionName.ofShort? name).map (.option · value)
  | _ => none

end Argument

namespace Options

/-- Reads the arguments behind those that set `options`. A path without an equals sign is the next
argument, whatever it looks like. -/
def parseFrom (options : Options) : List String → Option Options
  | [] => some options
  | arg :: rest =>
    match Argument.ofText? arg, rest with
    | some .stop, [] => some options
    | some (.option .json _), rest => parseFrom { options with json := true } rest
    | some (.option .verbose _), rest => parseFrom { options with verbose := true } rest
    | some (.option .grammar (some path)), rest =>
      parseFrom { options with grammar := some path } rest
    | some (.option .grammar none), path :: rest =>
      parseFrom { options with grammar := some path } rest
    | _, _ => none

/-- The options that the arguments of a command set; none if an argument is out of place. -/
def parse (args : List String) : Option Options := parseFrom {} args

end Options
end GrammarArtifact.Command
