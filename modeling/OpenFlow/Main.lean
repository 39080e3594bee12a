import OpenFlow.CommandLine
import OpenFlow.Endpoint.Open

/-!
# The controller program

`main` reads the command line (`Cli.parse`). A command line that asks for help or the version,
or is wrong, is reported on standard error with the kind of error, and the program exits with
status 0 for help and version and 2 otherwise. Otherwise the program controls one switch as a
learning switch over its standard streams: it reads everything the switch sends from standard
input, runs the session to its end (`serveSwitch`), writes what the controller sends to standard
output and the log records its level lets through to standard error.
-/

namespace OpenFlow

/-- Reads a stream to its end. -/
partial def readAll (stream : IO.FS.Stream) (acc : ByteArray) : IO ByteArray := do
  let chunk ← stream.read 65536
  if chunk.isEmpty then pure acc else readAll stream (acc ++ chunk)

/-- Runs the controller on the arguments after the program name. -/
def runController (args : List String) : IO UInt32 := do
  match Cli.parse args with
  | .error e =>
    IO.eprintln ("error: " ++ e.name)
    pure (if e = .displayHelp || e = .displayVersion then 0 else 2)
  | .ok cli =>
    let input ← readAll (← IO.getStdin) ByteArray.empty
    let (result, session) := serveSwitch input.toList
    let stdout ← IO.getStdout
    stdout.write (ByteArray.mk session.link.written.toArray)
    stdout.flush
    for line in session.logLines do
      if cli.level.allows line.level then IO.eprintln line.render
    match result with
    | .ok () => pure 0
    | .error e => pure (if e.isFatal then 1 else 0)

end OpenFlow

/-- The program's entry point. -/
def main (args : List String) : IO UInt32 :=
  OpenFlow.runController args
