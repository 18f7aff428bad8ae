import GrammarArtifact.Bundled.Language
import GrammarArtifact.Command.LogFilter
import GrammarArtifact.Command.Options

/-! # The command

The command loads the grammar in a file, or the bundled one, and says how large it is or prints its
node types. -/

namespace GrammarArtifact.Command

inductive CommandError where
  | badArguments
  | notLoaded (error : LanguageError)
  deriving DecidableEq, Repr

namespace CommandError

def message : CommandError → String
  | .badArguments => "Could not parse CLI arguments"
  | .notLoaded error => error.message

def exitCode : CommandError → Nat
  | .badArguments => 2
  | .notLoaded _ => 1

def text (e : CommandError) : String := s!"error: {e.message}\n"

end CommandError

structure Output where
  text : String
  log : List Event

def sizeLine (l : Language) : String :=
  s!"{l.name}: {l.grammar.rules.size} rules, {l.nodeKindCount} node kinds, {l.fieldCount} fields"

def report (options : Options) (l : Language) : String :=
  (if options.json then l.nodeTypesText else sizeLine l) ++ "\n"

/-- Runs the command, given what reads files and a setting for the log. -/
def run (read : String → Except FileProblem ByteArray) (logSetting : Option String)
    (args : List String) : Except CommandError Output :=
  match Options.parse args with
  | none => .error .badArguments
  | some options =>
    match options.grammar.elim Bundled.language (Language.ofFile read) with
    | .error e => .error (.notLoaded e)
    | .ok l =>
      let filter := if options.verbose then .verbose else LogFilter.ofSetting logSetting
      .ok ⟨report options l, l.events.filter filter.passes⟩

end GrammarArtifact.Command
