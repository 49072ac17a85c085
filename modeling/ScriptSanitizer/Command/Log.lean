import ScriptSanitizer.Event

/-!
# Logs

Which events a log shows and how.  A threshold admits the events of a level and of all more
important ones.
-/

namespace ScriptSanitizer

namespace Command

/-- The least important level that is shown, if any is. -/
inductive Threshold where
  /-- Events of a level and of all more important ones. -/
  | atLeast (level : Level)
  /-- No events. -/
  | off
  deriving DecidableEq

namespace Threshold

/-- The threshold admits events of a level. -/
def admits : Threshold → Level → Bool
  | atLeast least, level => least.rank ≤ level.rank
  | off, _ => false

/-- The thresholds and their names. -/
def names : List (String × Threshold) :=
  [("trace", .atLeast .trace), ("debug", .atLeast .debug), ("info", .atLeast .info),
    ("warn", .atLeast .warn), ("error", .atLeast .error), ("off", .off)]

/-- The threshold with a name. -/
def ofName? (name : Text) : Option Threshold := names.lookup (String.ofList name)

/-- The name of a threshold. -/
def name : Threshold → String
  | atLeast .trace => "trace"
  | atLeast .debug => "debug"
  | atLeast .info => "info"
  | atLeast .warn => "warn"
  | atLeast .error => "error"
  | off => "off"

theorem ofName?_name (threshold : Threshold) :
    ofName? threshold.name.toList = some threshold := by
  rcases threshold with (_ | _ | _ | _ | _) | _ <;> rfl

end Threshold

/-- How events are written. -/
inductive Format where
  /-- An object a line. -/
  | json
  /-- Several lines an event. -/
  | pretty
  /-- A line an event. -/
  | compact
  deriving DecidableEq

namespace Format

/-- The formats and their names. -/
def names : List (String × Format) :=
  [("json", .json), ("pretty", .pretty), ("compact", .compact)]

/-- The format with a name. -/
def ofName? (name : Text) : Option Format := names.lookup (String.ofList name)

/-- The name of a format. -/
def name : Format → String
  | json => "json"
  | pretty => "pretty"
  | compact => "compact"

theorem ofName?_name (format : Format) : ofName? format.name.toList = some format := by
  cases format <;> rfl

end Format

/-- The settings of a log. -/
structure LogSettings where
  /-- Which events are shown. -/
  level : Threshold := .atLeast .warn
  /-- How they are written. -/
  format : Format := .compact
  /-- Whether they name the part of the program that reports them. -/
  targets : Bool := false
  /-- Whether they are coloured. -/
  colors : Bool := false
  deriving DecidableEq

end Command

end ScriptSanitizer
