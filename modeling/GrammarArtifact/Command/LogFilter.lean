import GrammarArtifact.Language.Event

/-! # Which events are logged

A filter names a level, or a part of the program and a level. Events of that level and graver ones
pass if they come from that part or from below it. -/

namespace GrammarArtifact.Command

structure LogFilter where
  /-- What the targets of events begin with. -/
  target : String := ""
  /-- The least grave level; none if no event passes. -/
  level : Option LogLevel
  deriving DecidableEq, Repr

namespace LogFilter

def passes (f : LogFilter) (e : Event) : Bool :=
  e.target.startsWith f.target && f.level.any fun level => e.level.rank ≤ level.rank

/-- The level that a word stands for: its name in any case, or its rank. `off` is no level. -/
def levelOfWord? (word : String) : Option (Option LogLevel) :=
  match word.toLower with
  | "off" | "0" => some none
  | "error" | "1" => some (some .error)
  | "warn" | "2" => some (some .warn)
  | "info" | "3" => some (some .info)
  | "debug" | "4" => some (some .debug)
  | "trace" | "5" => some (some .trace)
  | _ => none

/-- What passes where nothing is said. -/
def standard : LogFilter := { level := some .warn }

/-- What passes where everything is to be shown. -/
def verbose : LogFilter := { level := some .debug }

/-- Reads a filter. A part without a level has all levels, and an empty filter passes errors. A
level without a part in front of its equals sign cannot be read. -/
def ofText? (text : String) : Option LogFilter :=
  match text.splitOn "=" with
  | [""] => some { level := some .error }
  | [word] => some (match levelOfWord? word with
    | some level => { level }
    | none => { target := word, level := some .trace })
  | ["", _] => none
  | [target, ""] => some { target, level := some .trace }
  | [target, word] => (levelOfWord? word).map fun level => { target, level }
  | _ => none

def ofSetting (setting : Option String) : LogFilter := (setting.bind ofText?).getD standard

end LogFilter
end GrammarArtifact.Command
