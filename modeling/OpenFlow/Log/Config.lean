import OpenFlow.Log
import OpenFlow.Host.Syscalls

/-!
# Log configuration

The controller logs to the console and to a file named after the switch connection
(`logFileName`: the text after the connection string's last `/`, then `.log`). Each `-v` flag
makes the log more verbose (`levelFor`). `buildLogConfig` sets up both outputs at a level: it
creates the file's missing parent directories and opens the file for appending, creating it,
and fails when either cannot be done, on any system that offers the calls.
-/

namespace OpenFlow

/-- The log file named after a connection string. -/
def logFileName (conn : String) : String :=
  (conn.splitOn "/").getLast?.getD conn ++ ".log"

/-- The level for a count of `-v` flags: info, debug, then trace. -/
def levelFor : Nat → LevelFilter
  | 0 => .upTo .info
  | 1 => .upTo .debug
  | _ => .upTo .trace

/-- Where log records go. -/
inductive LogTarget where
  | console
  | file (path : String)
deriving DecidableEq, Repr

/-- Named log outputs and the level and outputs of the root logger. -/
structure LogConfig where
  outputs : List (String × LogTarget)
  rootLevel : LevelFilter
  rootOutputs : List String
deriving DecidableEq, Repr

/-- A log file that could not be opened. -/
structure LogFileError where
  file : String
  cause : OsError
deriving DecidableEq, Repr

/-- The text shown for the error. -/
def LogFileError.message (e : LogFileError) : String :=
  "cannot open log file " ++ e.file ++ ": " ++ e.cause.message

/-- Console and file logging at a level. -/
def buildLogConfig {σ : Type} (os : Syscalls σ) (file : String) (level : LevelFilter) (h : σ) :
    Except LogFileError LogConfig × σ :=
  match (os.openCreatingParents file).run' h with
  | (.error e, h') => (.error ⟨file, e⟩, h')
  | (.ok (), h') =>
    (.ok { outputs := [("stdout", .console), ("file", .file file)], rootLevel := level,
           rootOutputs := ["stdout", "file"] }, h')

end OpenFlow
