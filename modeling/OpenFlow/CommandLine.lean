import OpenFlow.Endpoint
import OpenFlow.Log.Config
import OpenFlow.Bridge.Queue

/-!
# The command line

The controller is started as `learning-switch CONNECTION`, `queue-bridge CAPTURE INJECT`
(with `--capacity` and `--tap-name`) or `ipc-bridge capture|inject CONNECTION --ipc-socket PATH`
(the injecting side also takes `--tap-name`). At every level `-v`/`--verbose` counts,
`--log-config` and `--log-file` name files and `-h`/`--help` asks for help; the top level also
has `-V`/`--version`, and every level with subcommands has a `help` subcommand.

`Cli.parse` reads the arguments the way the usual command-line parsers of this shape do. Each
level is scanned from left to right (`scan`): an option that waits for its value takes the next
argument, whatever it looks like, unless that argument is itself a flag or an option; values are
checked only when the next flag, option or positional argument comes, or when the level ends
(`LevelState.resolve`), so an earlier bad value is reported before a later one. `--` makes everything
after it positional, and a subcommand name ends the level: the subcommand is read to its end
before the level that named it is finished (`LevelState.finish`), which reports missing subcommands
and missing required arguments. A global option given at several levels takes its value from
the deepest one. The first error is the outcome (`CliError`).
-/

namespace OpenFlow

/-- Why a command line gives no run: a request for help or the version, or a mistake. -/
inductive CliError where
  | displayHelp
  | displayVersion
  | displayHelpOnMissingArgumentOrSubcommand
  | missingSubcommand
  | missingRequiredArgument
  | unknownArgument
  | invalidSubcommand
  | invalidValue
  | valueValidation
  | argumentConflict
  | tooManyValues
deriving DecidableEq, Repr

/-- The name of the kind of error. -/
def CliError.name : CliError → String
  | .displayHelp => "DisplayHelp"
  | .displayVersion => "DisplayVersion"
  | .displayHelpOnMissingArgumentOrSubcommand => "DisplayHelpOnMissingArgumentOrSubcommand"
  | .missingSubcommand => "MissingSubcommand"
  | .missingRequiredArgument => "MissingRequiredArgument"
  | .unknownArgument => "UnknownArgument"
  | .invalidSubcommand => "InvalidSubcommand"
  | .invalidValue => "InvalidValue"
  | .valueValidation => "ValueValidation"
  | .argumentConflict => "ArgumentConflict"
  | .tooManyValues => "TooManyValues"

/-! ### Values -/

/-- How a value on the command line is read. -/
inductive ValueKind where
  | endpoint
  | path
  | size
  | text
deriving DecidableEq, Repr

/-- A value read from the command line. -/
inductive ArgValue where
  | endpoint (e : Endpoint)
  | path (p : String)
  | size (n : Nat)
  | text (s : String)
deriving DecidableEq, Repr

/-- The largest size a value may give: the largest 64-bit number. -/
def maxSize : Nat := UInt64.size - 1

/-- A size: decimal digits with an optional leading `+`; leading zeros are allowed, and a
number with more than twenty other digits is too large without being worked out. -/
def parseSize? (s : String) : Option Nat :=
  let digits : List Char := match s.toList with
    | '+' :: ds => ds
    | ds => ds
  if digits.isEmpty || !digits.all Char.isDigit then none
  else
    let significant := digits.dropWhile (· = '0')
    if significant.length > 20 then none
    else
      let v : Nat := significant.foldl (fun acc c => acc * 10 + (c.toNat - 48)) 0
      if v ≤ maxSize then some v else none

/-- Reads a value: a connection string must name an endpoint, a path must not be empty and a
size must be a number. -/
def ValueKind.read : ValueKind → String → Except CliError ArgValue
  | .endpoint, s =>
    match Endpoint.parse s with
    | .ok e => .ok (.endpoint e)
    | .error _ => .error .valueValidation
  | .path, s => if s.isEmpty then .error .invalidValue else .ok (.path s)
  | .size, s =>
    match parseSize? s with
    | some n => .ok (.size n)
    | none => .error .valueValidation
  | .text, s => .ok (.text s)

/-! ### The commands -/

/-- What an argument does when it is given. -/
inductive ArgAction where
  /-- Counts how often it is given. -/
  | count
  | help
  | version
  /-- Takes one value. -/
  | set (kind : ValueKind)
deriving DecidableEq, Repr

/-- A named argument: its long name, its short letter if any, and whether it must be given. -/
structure ArgSpec where
  id : String
  long : String
  short : Option Char := none
  action : ArgAction
  required : Bool := false
deriving DecidableEq, Repr

/-- The levels of the command line. -/
inductive Command where
  | top
  | learningSwitch
  | queueBridge
  | ipcBridge
  | ipcCapture
  | ipcInject
  /-- The `help` subcommand of a level with subcommands. -/
  | help
deriving DecidableEq, Repr

/-- The arguments every level takes. -/
def globalArgs : List ArgSpec :=
  [{ id := "verbose", long := "verbose", short := some 'v', action := .count },
   { id := "log_config", long := "log-config", action := .set .path },
   { id := "log_file", long := "log-file", action := .set .path },
   { id := "help", long := "help", short := some 'h', action := .help }]

/-- The `--tap-name` option. -/
def tapNameArg : ArgSpec :=
  { id := "tap_name", long := "tap-name", action := .set .text }

/-- The `--ipc-socket` option. -/
def ipcSocketArg : ArgSpec :=
  { id := "ipc_socket", long := "ipc-socket", action := .set .path, required := true }

namespace Command

/-- The named arguments of a level. -/
def args : Command → List ArgSpec
  | .top => globalArgs ++ [{ id := "version", long := "version", short := some 'V', action := .version }]
  | .queueBridge => globalArgs ++ [{ id := "capacity", long := "capacity", action := .set .size }, tapNameArg]
  | .ipcCapture => globalArgs ++ [ipcSocketArg]
  | .ipcInject => globalArgs ++ [ipcSocketArg, tapNameArg]
  | .learningSwitch | .ipcBridge | .help => globalArgs

/-- The positional arguments of a level, all required, in order. -/
def positionals : Command → List (String × ValueKind)
  | .learningSwitch | .ipcCapture | .ipcInject => [("connection", .endpoint)]
  | .queueBridge => [("capture", .endpoint), ("inject", .endpoint)]
  | .top | .ipcBridge | .help => []

/-- The subcommands of a level by name. -/
def subcommands : Command → List (String × Command)
  | .top => [("learning-switch", .learningSwitch), ("queue-bridge", .queueBridge),
             ("ipc-bridge", .ipcBridge), ("help", .help)]
  | .ipcBridge => [("capture", .ipcCapture), ("inject", .ipcInject), ("help", .help)]
  | _ => []

/-- The subcommand of a name. -/
def subcommand? (c : Command) (name : String) : Option Command :=
  c.subcommands.lookup name

/-- The argument of a long name. -/
def long? (c : Command) (name : String) : Option ArgSpec :=
  c.args.find? (·.long = name)

/-- The argument of a short letter. -/
def short? (c : Command) (ch : Char) : Option ArgSpec :=
  c.args.find? (·.short = some ch)

end Command

/-- What `help` followed by names asks for: help on the level the names lead to, as long as
each names a subcommand of the one before. -/
def helpRequest : Command → List String → CliError
  | _, [] => .displayHelp
  | c, name :: more =>
    match c.subcommand? name with
    | some sub => helpRequest sub more
    | none => .invalidSubcommand

/-! ### Reading one level -/

/-- Values given to an argument that have not been checked yet. -/
structure Pending where
  id : String
  kind : ValueKind
  values : List String
deriving DecidableEq, Repr

/-- What a level has read so far. -/
structure LevelState where
  /-- Checked values by argument, newest first. -/
  values : List (String × ArgValue) := []
  /-- How often `-v` was given at this level. -/
  count : Nat := 0
  pending : Option Pending := none
  /-- The index of the next positional argument. -/
  nextPositional : Nat := 0
  /-- Whether the pending option still waits for its value. -/
  expecting : Bool := false
  /-- Whether `--` was given. -/
  trailing : Bool := false
deriving DecidableEq, Repr

/-- The most a counting argument counts to. -/
def maxCount : Nat := 255

namespace LevelState

/-- Checks and keeps the value given to an argument; an argument that takes one value may be
given once only. -/
def store (l : LevelState) (id : String) (kind : ValueKind) : List String → Except CliError LevelState
  | [] => .error .invalidValue
  | v :: _ =>
    if (l.values.lookup id).isSome then .error .argumentConflict
    else do
      let a ← kind.read v
      pure { l with values := (id, a) :: l.values }

/-- Checks the pending values. -/
def resolve (l : LevelState) : Except CliError LevelState :=
  match l.pending with
  | none => .ok l
  | some p => { l with pending := none }.store p.id p.kind p.values

/-- A flag is given: pending values are checked first. -/
def flag (l : LevelState) : ArgAction → Except CliError LevelState
  | .count => do
    let l ← l.resolve
    pure { l with count := min maxCount (l.count + 1), expecting := false }
  | .help => do
    let _ ← l.resolve
    .error .displayHelp
  | .version => do
    let _ ← l.resolve
    .error .displayVersion
  | .set _ => .ok l

/-- An option is given without a value: it waits for the next argument. -/
def await (l : LevelState) (a : ArgSpec) (kind : ValueKind) : Except CliError LevelState := do
  let l ← l.resolve
  pure { l with pending := some ⟨a.id, kind, []⟩, expecting := true }

/-- An option is given with its value attached. -/
def attached (l : LevelState) (a : ArgSpec) (kind : ValueKind) (v : String) : Except CliError LevelState := do
  let l ← l.resolve
  let l ← l.store a.id kind [v]
  pure { l with expecting := false }

end LevelState

/-- A cluster of short letters after one `-`: flags one after another; an option takes the rest
of the cluster, after an optional `=`, as its value, or else waits for the next argument. -/
def shortCluster (c : Command) (l : LevelState) : List Char → Except CliError LevelState
  | [] => .ok { l with expecting := false }
  | ch :: more =>
    match c.short? ch with
    | none => .error .unknownArgument
    | some a =>
      match a.action with
      | .set kind =>
        match more with
        | [] => l.await a kind
        | '=' :: v => l.attached a kind (String.ofList v)
        | v => l.attached a kind (String.ofList v)
      | act => do
        let l ← l.flag act
        shortCluster c l more

/-- A long argument `--name` or `--name=value`. -/
def longArg (c : Command) (l : LevelState) (body : List Char) : Except CliError LevelState :=
  let name := String.ofList (body.takeWhile (· ≠ '='))
  let value := match body.dropWhile (· ≠ '=') with
    | '=' :: v => some (String.ofList v)
    | _ => none
  match c.long? name with
  | none => .error .unknownArgument
  | some a =>
    match a.action, value with
    | .set kind, some v => l.attached a kind v
    | .set kind, none => l.await a kind
    | _, some _ => .error .tooManyValues
    | act, none => l.flag act

/-- How the scan of a level ended. -/
inductive Scan where
  /-- The arguments ran out. -/
  | done (l : LevelState)
  /-- A subcommand was named; the arguments after its name are its own. -/
  | subcommand (l : LevelState) (sub : Command) (rest : List String)
deriving Repr

/-- A positional argument where the level takes none. -/
def strayArgument (c : Command) (l : LevelState) (arg : String) : CliError :=
  if l.trailing && (c.subcommand? arg).isSome then .unknownArgument
  else if c.subcommands.isEmpty then .unknownArgument
  else .invalidSubcommand

/-- Reads the arguments of a level from left to right. -/
def scan (c : Command) : LevelState → List String → Except CliError Scan
  | l, [] => .ok (.done l)
  | l, arg :: rest =>
    let sub := if l.trailing || l.expecting then none else c.subcommand? arg
    match sub with
    | some .help => .error (helpRequest c rest)
    | some s => .ok (.subcommand l s rest)
    | none =>
      match l.trailing, arg.toList with
      | false, ['-', '-'] => scan c { l with trailing := true } rest
      | false, '-' :: '-' :: body => do
        let l ← longArg c l body
        scan c l rest
      | false, '-' :: ch :: more => do
        let l ← shortCluster c l (ch :: more)
        scan c l rest
      | _, _ =>
        if !l.trailing && l.expecting then
          let p := l.pending.map fun p => { p with values := p.values ++ [arg] }
          scan c { l with pending := p, expecting := false } rest
        else
          match c.positionals[l.nextPositional]? with
          | some (id, kind) => do
            let l ← l.resolve
            scan c { l with pending := some ⟨id, kind, [arg]⟩,
                            nextPositional := l.nextPositional + 1, expecting := false } rest
          | none => .error (strayArgument c l arg)

/-- Whether anything was given at a level. -/
def LevelState.anyGiven (l : LevelState) : Bool :=
  !l.values.isEmpty || l.count > 0

/-- Ends a level: checks what is pending, then that a subcommand was named where one is
needed and that every required argument was given. -/
def LevelState.finish (c : Command) (l : LevelState) (named : Bool) : Except CliError LevelState := do
  let l ← l.resolve
  if !named && !c.subcommands.isEmpty then
    if l.anyGiven then throw .missingSubcommand
    else throw .displayHelpOnMissingArgumentOrSubcommand
  let missingPositional := c.positionals.any fun p => (l.values.lookup p.1).isNone
  let missingOption := c.args.any fun a => a.required && (l.values.lookup a.id).isNone
  if missingPositional || missingOption then throw .missingRequiredArgument
  pure l

/-- Reads a level and the subcommands below it, each level with what it read, top first. Every
level consumes at least its name, so `fuel` at the number of arguments is enough. -/
def readLevels : Nat → Command → List String → Except CliError (List (Command × LevelState))
  | 0, _, _ => .error .invalidSubcommand
  | fuel + 1, c, args => do
    match ← scan c {} args with
    | .done l =>
      let l ← l.finish c false
      pure [(c, l)]
    | .subcommand l sub rest =>
      let below ← readLevels fuel sub rest
      let l ← l.finish c true
      pure ((c, l) :: below)

/-! ### The parsed command line -/

/-- The side of an IPC bridge a controller plays. -/
inductive IpcSide where
  | capture (connection : Endpoint) (ipcSocket : String)
  | inject (connection : Endpoint) (ipcSocket : String) (tapName : String)
deriving DecidableEq, Repr

/-- What the controller is started to do. -/
inductive Mode where
  | learningSwitch (connection : Endpoint)
  | queueBridge (capture inject : Endpoint) (capacity : Nat) (tapName : String)
  | ipcBridge (side : IpcSide)
deriving DecidableEq, Repr

/-- A parsed command line. -/
structure Cli where
  verbose : Nat
  logConfig : Option String
  logFile : Option String
  mode : Mode
deriving DecidableEq, Repr

/-- The value of a global argument: the one given at the deepest level. -/
def globalValue (levels : List (Command × LevelState)) (id : String) : Option ArgValue :=
  levels.foldl (fun acc e => (e.2.values.lookup id).orElse fun _ => acc) none

/-- The count of `-v`: the one given at the deepest level that has any. -/
def globalCount (levels : List (Command × LevelState)) : Nat :=
  levels.foldl (fun acc e => if e.2.count > 0 then e.2.count else acc) 0

/-- A path value, if one was given. -/
def pathValue? : Option ArgValue → Option String
  | some (.path p) => some p
  | _ => none

/-- The endpoint a level was given under a name. -/
def LevelState.endpoint (l : LevelState) (id : String) : Except CliError Endpoint :=
  match l.values.lookup id with
  | some (.endpoint e) => .ok e
  | _ => .error .missingRequiredArgument

/-- The path a level was given under a name. -/
def LevelState.path (l : LevelState) (id : String) : Except CliError String :=
  match l.values.lookup id with
  | some (.path p) => .ok p
  | _ => .error .missingRequiredArgument

/-- The tap name a level was given, or the default. -/
def LevelState.tapName (l : LevelState) : String :=
  match l.values.lookup "tap_name" with
  | some (.text s) => s
  | _ => defaultTapName

/-- The mode the levels below the top name. -/
def modeOf : List (Command × LevelState) → Except CliError Mode
  | [(.learningSwitch, l)] => .learningSwitch <$> l.endpoint "connection"
  | [(.queueBridge, l)] => do
    let capacity := match l.values.lookup "capacity" with
      | some (.size n) => n
      | _ => defaultQueueCapacity
    pure (.queueBridge (← l.endpoint "capture") (← l.endpoint "inject") capacity l.tapName)
  | [(.ipcBridge, _), (.ipcCapture, l)] => do
    pure (.ipcBridge (.capture (← l.endpoint "connection") (← l.path "ipc_socket")))
  | [(.ipcBridge, _), (.ipcInject, l)] => do
    pure (.ipcBridge (.inject (← l.endpoint "connection") (← l.path "ipc_socket") l.tapName))
  | _ => .error .missingSubcommand

namespace Cli

/-- Reads the arguments after the program name. -/
def parse (args : List String) : Except CliError Cli := do
  let levels ← readLevels (args.length + 1) .top args
  let mode ← modeOf levels.tail
  pure { verbose := globalCount levels,
         logConfig := pathValue? (globalValue levels "log_config"),
         logFile := pathValue? (globalValue levels "log_file"),
         mode := mode }

/-- The log level the `-v` count asks for. -/
def level (c : Cli) : LevelFilter :=
  levelFor c.verbose

/-- The switch connection the log file is named after. -/
def primaryConnection (c : Cli) : Endpoint :=
  match c.mode with
  | .learningSwitch conn => conn
  | .queueBridge capture _ _ _ => capture
  | .ipcBridge (.capture conn _) | .ipcBridge (.inject conn _ _) => conn

/-- The log file: the one given, or one named after the primary connection. -/
def logFilePath (c : Cli) : String :=
  c.logFile.getD (logFileName c.primaryConnection.text)

end Cli

end OpenFlow
