/-!
# Log records

The controller reports what it does as log records of five levels (`LogLine`); a record is
shown as its upper-case level, a space and its text (`LogLine.render`). A level filter
(`LevelFilter`) adds `off` below the five and is named case-insensitively (`LevelFilter.ofName?`).
-/

namespace OpenFlow

/-- How important a log record is, from most to least. -/
inductive Level where
  | error
  | warn
  | info
  | debug
  | trace
deriving DecidableEq, Repr

/-- The upper-case name of a level. -/
def Level.name : Level → String
  | .error => "ERROR"
  | .warn => "WARN"
  | .info => "INFO"
  | .debug => "DEBUG"
  | .trace => "TRACE"

/-- The place of a level from most important (0) to least. -/
def Level.rank : Level → Nat
  | .error => 0
  | .warn => 1
  | .info => 2
  | .debug => 3
  | .trace => 4

/-- One log record. -/
structure LogLine where
  level : Level
  text : String
deriving DecidableEq, Repr

/-- `LEVEL text`. -/
def LogLine.render (l : LogLine) : String :=
  l.level.name ++ " " ++ l.text

/-- The most verbose level a logger lets through, or none at all. -/
inductive LevelFilter where
  | off
  | upTo (level : Level)
deriving DecidableEq, Repr

namespace LevelFilter

/-- The upper-case name of a filter. -/
def name : LevelFilter → String
  | off => "OFF"
  | upTo l => l.name

/-- Whether a filter lets records of a level through: `off` none, `upTo l` those at `l` or more
important. -/
def allows : LevelFilter → Level → Bool
  | off, _ => false
  | upTo l, m => m.rank ≤ l.rank

/-- The filter of a name in any case. -/
def ofName? (s : String) : Option LevelFilter :=
  match s.toLower with
  | "off" => some off
  | "error" => some (upTo .error)
  | "warn" => some (upTo .warn)
  | "info" => some (upTo .info)
  | "debug" => some (upTo .debug)
  | "trace" => some (upTo .trace)
  | _ => none

end LevelFilter

end OpenFlow
