import OpenFlow.Endpoint
import OpenFlow.Host.Syscalls
import OpenFlow.Session.Controller

/-!
# Opening an endpoint and serving the switch

A local endpoint is opened on any system that offers the calls (`Endpoint.openLocal`):
`unix:FILE` connects to the stream socket listening under the name, `punix:FILE` removes a stale
name, listens under it and takes the one connection the switch makes. Network endpoints are not
local and give `none`. Once open, the controller runs one learning-switch session over the
connection to its end (`serveSwitch`): the switch's bytes are read until they run out, and
everything the controller writes reaches the switch.
-/

namespace OpenFlow

/-- An endpoint that could not be opened, and why. -/
structure OpenError where
  endpoint : Endpoint
  cause : OsError
deriving DecidableEq, Repr

/-- The text shown for the error. -/
def OpenError.message (e : OpenError) : String :=
  "Could not open " ++ e.endpoint.text ++ ": " ++ e.cause.message

section Open

variable {σ : Type} (os : Syscalls σ)

/-- Listens for stream connections under a name, removing a stale one first. -/
def listenAt (path : String) : SysM σ Nat := do
  os.removeStale path
  os.listen path

/-- Listens for stream connections under a name in place of whatever stands there; what cannot
be removed is left for the bind to refuse. -/
def listenInPlace (path : String) : SysM σ Nat := do
  let _ ← attempt (os.removeFile path)
  os.listen path

namespace Endpoint

/-- The calls that open a local endpoint, with what they log; `none` for a network one. -/
def openCalls (e : Endpoint) : Option (SysM σ (List LogLine)) :=
  match e with
  | .unix path => some do
    os.connect path
    pure [⟨.info, "Connected to " ++ e.text⟩]
  | .passiveUnix path => some do
    let listener ← listenAt os path
    os.accept listener
    modify (os.close listener)
    pure [⟨.info, "Listening on " ++ e.text⟩, ⟨.info, "Switch connected on " ++ path⟩]
  | .tcp _ | .passiveTcp _ => none

/-- Opens a local endpoint: what it logs, or why it failed; `none` for a network endpoint. -/
def openLocal (e : Endpoint) (h : σ) : Option (Except OpenError (List LogLine) × σ) :=
  (e.openCalls os).map fun calls =>
    match calls.run' h with
    | (.ok logs, h') => (.ok logs, h')
    | (.error cause, h') => (.error ⟨e, cause⟩, h')

end Endpoint

end Open

/-- Runs a learning-switch session to its end over a connection on which the switch sends
`input` and then stops sending. -/
def serveSwitch (input : List UInt8) : Except WireError Unit × Session :=
  let s : Session := { link := { pending := input } }
  let m : SessionM Unit Unit := Session.run Variant.plain
  let (r, (s', ())) := m.run.run (s, ())
  (r, s')

end OpenFlow
