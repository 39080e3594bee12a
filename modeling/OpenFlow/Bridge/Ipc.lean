import OpenFlow.Bridge.Queue
import OpenFlow.Host.Syscalls

/-!
# The IPC bridge

Two sessions, possibly in two processes, joined through a local datagram socket
(`IpcBridge`), on any system that offers the calls (`Syscalls`). The injecting end binds the
socket under a name, replacing a stale one (`IpcBridge.inject`), and reads one datagram per
opportunity once it knows its tap port; a datagram longer than its buffer of 65535 bytes comes
back cut short. The capturing end sends every captured frame to that name
(`IpcBridge.capture`) and only logs what goes wrong: a full socket drops the frame. `IpcWorld`
holds both ends and the system they run on, so that two sessions can share it through
`IpcWorld.variant`.
-/

namespace OpenFlow

/-- The injecting end reads datagrams into a buffer of this many bytes. -/
def ipcBufferSize : Nat := 65535

/-- What an end of an IPC bridge does. -/
inductive IpcRole where
  /-- Sends captured frames to the socket under a name. -/
  | capture (path : String)
  /-- Reads frames from its own bound socket. -/
  | inject (socket : Nat)
deriving DecidableEq, Repr

/-- One end of an IPC bridge. -/
structure IpcBridge where
  role : IpcRole
  tap : TapPort
deriving DecidableEq, Repr

namespace IpcBridge

variable {σ : Type} (os : Syscalls σ)

/-- The capturing end, sending to the socket under `path`. -/
def capture (path : String) : IpcBridge :=
  { role := .capture path, tap := { name := defaultTapName } }

/-- The injecting end: binds a datagram socket under `path`, removing a stale name first. -/
def inject (path : String) (tapName : String) : SysM σ IpcBridge := do
  os.removeStale path
  let id ← os.bindDatagram path
  pure { role := .inject id, tap := { name := tapName } }

/-- The tap port the end knows; the capturing end never looks it up. -/
def tapPort (b : IpcBridge) : Option UInt16 :=
  b.tap.port

/-- The system after the end is closed. -/
def close (b : IpcBridge) (h : σ) : σ :=
  match b.role with
  | .inject id => os.close id h
  | .capture _ => h

/-- The injecting end looks its tap port up again. -/
def featuresKnown (f : SwitchFeatures) (b : IpcBridge) : IpcBridge × List LogLine :=
  match b.role with
  | .inject _ =>
    let (t, logs) := b.tap.update f
    ({ b with tap := t }, logs)
  | .capture _ => (b, [])

/-- The capturing end sends a frame as one datagram. -/
def onCapture (frame : List UInt8) (b : IpcBridge) (h : σ) : σ × List LogLine :=
  match b.role with
  | .inject _ => (h, [])
  | .capture path =>
    let n := toString frame.length
    match (os.sendTo path frame).run' h with
    | (.ok (), h') => (h', [⟨.debug, "Sent " ++ n ++ " byte frame to " ++ path⟩])
    | (.error .wouldBlock, h') =>
      (h', [⟨.warn, "Bridge socket " ++ path ++ " full, dropping " ++ n ++ " byte frame"⟩])
    | (.error e, h') => (h', [⟨.warn, "Could not send frame to " ++ path ++ ": " ++ e.message⟩])

/-- The injecting end reads the next datagram once it knows its tap port. -/
def injectOpportunity (b : IpcBridge) (h : σ) : σ × List LogLine × Option Injection :=
  match b.role, b.tap.port with
  | .inject id, some port =>
    match (os.recv id ipcBufferSize).run' h with
    | (.ok f, h') => (h', [], some ⟨port, f⟩)
    | (.error .wouldBlock, h') => (h', [], none)
    | (.error e, h') => (h', [⟨.warn, "Could not read from bridge socket: " ++ e.message⟩], none)
  | _, _ => (h, [], none)

end IpcBridge

/-- The two ends of an IPC bridge, either of which may be missing, and the system they run on. -/
structure IpcWorld (σ : Type) where
  host : σ
  capture : Option IpcBridge := none
  inject : Option IpcBridge := none
deriving Repr

namespace IpcWorld

variable {σ : Type} (os : Syscalls σ)

/-- The end on a side. -/
def bridge (w : IpcWorld σ) : BridgeSide → Option IpcBridge
  | .capture => w.capture
  | .inject => w.inject

/-- The world with the end on a side replaced. -/
def setBridge (w : IpcWorld σ) (b : Option IpcBridge) : BridgeSide → IpcWorld σ
  | .capture => { w with capture := b }
  | .inject => { w with inject := b }

/-- The world after the end on a side is closed and removed. -/
def close (w : IpcWorld σ) (side : BridgeSide) : IpcWorld σ :=
  match w.bridge side with
  | some b => { w.setBridge none side with host := b.close os w.host }
  | none => w

/-- The session variant of the end on a side; a missing end does nothing. -/
def variant (side : BridgeSide) : Variant (IpcWorld σ) where
  featuresKnown f w :=
    match w.bridge side with
    | some b =>
      let (b', logs) := b.featuresKnown f
      (w.setBridge (some b') side, logs)
    | none => (w, [])
  capture frame w :=
    match w.bridge side with
    | some b =>
      let (h, logs) := b.onCapture os frame w.host
      ({ w with host := h }, logs)
    | none => (w, [])
  injectOpportunity w :=
    match w.bridge side with
    | some b =>
      let (h, logs, inj) := b.injectOpportunity os w.host
      ({ w with host := h }, logs, inj)
    | none => (w, [], none)

end IpcWorld

end OpenFlow
