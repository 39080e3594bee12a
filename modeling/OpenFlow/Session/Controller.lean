import OpenFlow.Session.Link
import OpenFlow.Session.Variant
import OpenFlow.Switch.Policy

/-!
# The controller session

One OpenFlow conversation with one switch (`Session`). The controller greets the switch with a
hello and a features request (`handshake`), then reads message after message (`processNext`)
and handles each (`dispatch`): a hello may lower the protocol version, an error report ends the
conversation, an echo request is answered, a features reply establishes the session, and a
packet-in is learned from and answered by the forwarding policy. `run` does all this until the
session ends; an error that is not fatal only drops the message at hand.

Everything happens in `SessionM σ`, which keeps the session and the variant's state `σ` through
failures: what was done before an error stays done.
-/

namespace OpenFlow

/-- Where a session stands. -/
inductive SessionState where
  | connecting
  | awaitingFeatures
  | established
  | terminated
deriving DecidableEq, Repr

/-- A controller's conversation with one switch. -/
structure Session where
  version : UInt8 := protocolVersion
  state : SessionState := .connecting
  features : Option SwitchFeatures := none
  table : LearningTable := LearningTable.empty
  link : Link := {}
  /-- Log records since they were last collected, newest first. -/
  journal : List LogLine := []
deriving Repr

/-- A session step: it may fail, and it keeps its effects on the session and on the variant's
state `σ` when it does. -/
abbrev SessionM (σ : Type) := ExceptT WireError (StateM (Session × σ))

namespace Session

/-- The log records since they were last collected, in order. -/
def logLines (s : Session) : List LogLine :=
  s.journal.reverse

variable {σ : Type}

/-! ### Primitive steps -/

/-- The session as it is now. -/
def current : SessionM σ Session := do
  return (← get).1

/-- Changes the session. -/
def change (f : Session → Session) : SessionM σ Unit :=
  modify fun (s, w) => (f s, w)

/-- Records a log line. -/
def log (level : Level) (text : String) : SessionM σ Unit :=
  change fun s => { s with journal := ⟨level, text⟩ :: s.journal }

/-- Records several log lines in order. -/
def logAll (lines : List LogLine) : SessionM σ Unit :=
  change fun s => { s with journal := lines.reverse ++ s.journal }

/-- Fails with a wire error, or goes on with the value. -/
def check {α : Type} (r : Except WireError α) : SessionM σ α :=
  match r with
  | .ok a => pure a
  | .error e => throw e

/-- Runs a step of the variant on its state and records its log lines. -/
def hook {α : Type} (f : σ → σ × List LogLine × α) : SessionM σ α := do
  let (s, w) ← get
  let (w', lines, a) := f w
  set (s, w')
  logAll lines
  pure a

/-- Writes a message stamped with the session's version. A message that cannot be encoded is
not written; a failing link fails the step after the write is logged. -/
def send (xid : UInt32) (m : Message) : SessionM σ Unit := do
  let s ← current
  let bytes ← check (Message.encode s.version xid m)
  log .trace ("Write " ++ m.code.name ++ ":\n" ++ Text.hexDump bytes)
  if s.link.writeFails then throw (.transportFailure .brokenPipe)
  change fun s => { s with link := s.link.write bytes }

/-- Reads exactly `n` bytes; when fewer are there, they are used up and the input has ended. -/
def readExact (n : Nat) : SessionM σ (List UInt8) := do
  let s ← current
  match takeExact n s.link.pending [] with
  | some (got, rest) =>
    change fun s => { s with link := { s.link with pending := rest } }
    pure got
  | none =>
    change fun s => { s with link := { s.link with pending := [] } }
    throw (.transportFailure .inputEnded)

/-- Reads one message: its header, and then as many body bytes as the header announces. A
length shorter than the header itself is a violation, and then no body is read. -/
def readMessage : SessionM σ (Header × List UInt8) := do
  let raw ← readExact Header.size
  let h ← check (Header.decode raw)
  log .debug ("Received header: version " ++ toString h.version.toNat ++ " type " ++
    toString h.typeCode.toNat ++ " length " ++ toString h.length.toNat ++ " xid " ++
    toString h.xid.toNat)
  if h.length.toNat < Header.size then
    throw (.protocolViolation ("header length " ++ toString h.length.toNat ++
      " is shorter than the header"))
  let body ← readExact h.bodyLength
  log .trace ("Read:\n" ++ Text.hexDumpMessage raw body)
  pure (h, body)

/-! ### Handling messages -/

/-- Greets the switch and asks for its features. -/
def handshake : SessionM σ Unit := do
  send 0 .hello
  send 0 .featuresRequest
  change fun s => { s with state := .awaitingFeatures }

/-- The datapath id as sixteen hexadecimal digits. -/
def datapathText (f : SwitchFeatures) : String :=
  Text.hexPadded 16 f.datapathId.toNat

/-- The log line of one port of a features reply. -/
def portLine (p : PortDesc) : LogLine :=
  ⟨.info, "  port " ++ toString p.portNo.toNat ++ " " ++ p.name ++ " " ++ p.hwAddr.text ++
    " config " ++ portConfigFlags.render p.config ++ " state " ++
    portStateFlags.render p.state⟩

/-- Takes in the switch's features and establishes the session. -/
def featuresKnown (v : Variant σ) (f : SwitchFeatures) : SessionM σ Unit := do
  if (← current).state = .established then
    log .info ("Replacing features of switch " ++ datapathText f)
  log .info ("Switch " ++ datapathText f ++ ": " ++ toString f.numBuffers.toNat ++ " buffers, " ++
    toString f.numTables.toNat ++ " tables, capabilities " ++
    capabilitiesFlags.render f.capabilities ++ ", actions " ++ actionsFlags.render f.actions)
  logAll (f.ports.map portLine)
  hook fun w => let (w', lines) := v.featuresKnown f w; (w', lines, ())
  change fun s => { s with features := some f, state := .established }

/-- Gives the variant the chance to send one frame out of a port. -/
def inject (v : Variant σ) : SessionM σ Unit := do
  match ← hook v.injectOpportunity with
  | some inj =>
    log .debug ("Injecting " ++ toString inj.frame.length ++ " bytes out of port " ++
      toString inj.port.toNat)
    send 0 (.packetOut ⟨.notBuffered inj.frame, none, [.output (.physical inj.port)]⟩)
  | none => pure ()

/-- Learns where the packet's sender is, hands a purposely sent frame to the variant, answers
by the forwarding policy, and lets the variant inject. A frame of unknown ethernet type is only
flooded. -/
def packetIn (v : Variant σ) (xid : UInt32) (p : PacketIn) : SessionM σ Unit := do
  let flow? ← match Flow.ofPacketIn xid p with
    | .ok f => pure (some f)
    | .error (.unknownEtherType t) => do
      log .warn ("Unknown ethernet type 0x" ++ Text.hexPadded 4 t.toNat ++ " on port " ++
        toString p.port.toNat)
      pure none
    | .error e => throw e
  if let some f := flow? then
    log .debug f.text
    let (t, lines) := (← current).table.learn f.dlSrc f.inPort
    change fun s => { s with table := t }
    logAll lines
    log .debug (← current).table.text
  if p.reason = .explicitSend then
    hook fun w => let (w', lines) := v.capture p.payload.data w; (w', lines, ())
  let table := (← current).table
  let decision := match flow? with
    | some f => decide f table
    | none => .floodUnknown
  match decision, flow? with
  | .install port, some f => send xid (.flowMod (installFlow f port))
  | .flood, _ => send xid (.packetOut (flood p))
  | _, _ =>
    log .warn ("No policy for packet from port " ++ toString p.port.toNat ++ ", flooding")
    send xid (.packetOut (flood p))
  inject v

/-- Handles one message from the switch. -/
def dispatch (v : Variant σ) (h : Header) (body : List UInt8) : SessionM σ Unit := do
  match ← check (Message.parse h body) with
  | .hello =>
    let s ← current
    if h.version < s.version then
      log .info ("Switch speaks version " ++ toString h.version.toNat ++ ", downgrading from " ++
        toString s.version.toNat)
      change fun s => { s with version := h.version }
  | .error e => throw (.protocolViolation ("switch reported " ++ e.text))
  | .echoRequest d => send h.xid (.echoReply d)
  | .featuresReply f =>
    if (← current).state = .connecting then
      log .warn "Features reply before features request, dropped"
    else
      featuresKnown v f
  | .packetIn p =>
    if (← current).state ≠ .established then
      log .warn "Packet-in before features reply, dropped"
    else
      packetIn v h.xid p
  | m => log .debug ("Ignoring " ++ m.code.name)

/-- Reads and handles the next message. -/
def processNext (v : Variant σ) : SessionM σ Unit := do
  let (h, body) ← readMessage
  dispatch v h body

/-- Ends the session because of a fatal error. -/
def terminate (e : WireError) : SessionM σ Unit := do
  log .error ("Session terminated: " ++ e.message)
  change fun s => { s with state := .terminated }

/-! ### Running -/

/-- Handles messages until the session ends, from state `c`, for at most `fuel` messages. A
fatal error ends the session and is the result; any other error drops the message. -/
def runFrom (v : Variant σ) : Nat → Session × σ → Except WireError Unit × (Session × σ)
  | 0, c => (.ok (), c)
  | fuel + 1, c =>
    if c.1.state = .terminated then (.ok (), c)
    else
      match (processNext v).run.run c with
      | (.ok (), c') => runFrom v fuel c'
      | (.error e, c') =>
        if e.isFatal then ((do terminate e; throw e : SessionM σ Unit)).run.run c'
        else runFrom v fuel ((log .warn ("Dropping message: " ++ e.message) :
          SessionM σ Unit).run.run c').2

/-- Greets the switch if that has not happened, then handles messages until the session ends.
Every message that does not end the session consumes at least a header's bytes, so one more
round than there are pending bytes is always enough. -/
def run (v : Variant σ) : SessionM σ Unit := do
  if (← current).state = .connecting then
    tryCatch handshake fun e => do
      terminate e
      throw e
  let c ← get
  let (r, c') := runFrom v (c.1.link.pending.length + 1) c
  set c'
  match r with
  | .ok () => pure ()
  | .error e => throw e

end Session

end OpenFlow
