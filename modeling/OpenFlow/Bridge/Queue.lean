import OpenFlow.Bridge.Tap
import OpenFlow.Session.Variant

/-!
# The queue bridge

Two sessions in one process joined by a bounded queue of frames (`FrameQueue`): the capturing
end puts each captured frame into the queue unless it is full or the other end is gone, and the
injecting end takes the oldest frame once it knows its tap port. A queue of capacity zero holds
nothing, so every frame put into it is dropped. `QueueBridge.variant` gives each end's session
variant; both work on the one shared `QueueBridge`.
-/

namespace OpenFlow

/-- The queue bridges use unless told otherwise holds this many frames. -/
def defaultQueueCapacity : Nat := 1024

/-- A bounded first-in first-out queue of frames and whether its two ends are still open. -/
structure FrameQueue where
  capacity : Nat
  /-- Queued frames, oldest first. -/
  frames : List (List UInt8) := []
  senderOpen : Bool := true
  receiverOpen : Bool := true
deriving DecidableEq, Repr

/-- What became of a frame put into the queue. -/
inductive SendOutcome where
  | queued
  | full
  | disconnected
deriving DecidableEq, Repr

/-- What taking from the queue gave. -/
inductive ReceiveOutcome where
  | frame (f : List UInt8)
  | empty
  | disconnected
deriving DecidableEq, Repr

namespace FrameQueue

/-- Puts a frame at the back unless the receiving end is gone or the queue is full. -/
def trySend (q : FrameQueue) (f : List UInt8) : FrameQueue × SendOutcome :=
  if !q.receiverOpen then (q, .disconnected)
  else if q.frames.length < q.capacity then ({ q with frames := q.frames ++ [f] }, .queued)
  else (q, .full)

/-- Takes the oldest frame; an empty queue whose sending end is gone is disconnected. -/
def tryReceive (q : FrameQueue) : FrameQueue × ReceiveOutcome :=
  match q.frames with
  | f :: rest => ({ q with frames := rest }, .frame f)
  | [] => (q, if q.senderOpen then .empty else .disconnected)

end FrameQueue

/-- Which end of a bridge a session plays. -/
inductive BridgeSide where
  | capture
  | inject
deriving DecidableEq, Repr

/-- The shared state of a capturing and an injecting session. -/
structure QueueBridge where
  queue : FrameQueue
  /-- The injecting end's tap port; the capturing end never looks its port up. -/
  tap : TapPort
deriving DecidableEq, Repr

namespace QueueBridge

/-- A fresh pair of ends sharing a queue of `capacity` frames. -/
def pair (capacity : Nat) (tapName : String) : QueueBridge :=
  { queue := { capacity }, tap := { name := tapName } }

/-- The tap port an end knows. -/
def tapPort (b : QueueBridge) : BridgeSide → Option UInt16
  | .capture => none
  | .inject => b.tap.port

/-- The bridge after one end is closed. -/
def close (b : QueueBridge) : BridgeSide → QueueBridge
  | .capture => { b with queue := { b.queue with senderOpen := false } }
  | .inject => { b with queue := { b.queue with receiverOpen := false } }

/-- The injecting end looks its tap port up again. -/
def featuresKnown (f : SwitchFeatures) (b : QueueBridge) : QueueBridge × List LogLine :=
  let (t, logs) := b.tap.update f
  ({ b with tap := t }, logs)

/-- The capturing end queues a frame, or drops it when the queue is full or its peer is gone. -/
def capture (frame : List UInt8) (b : QueueBridge) : QueueBridge × List LogLine :=
  let n := toString frame.length
  match b.queue.trySend frame with
  | (q, .queued) => ({ b with queue := q }, [⟨.debug, "Queued " ++ n ++ " byte frame"⟩])
  | (q, .full) =>
    ({ b with queue := q }, [⟨.warn, "Bridge queue full, dropping " ++ n ++ " byte frame"⟩])
  | (q, .disconnected) => ({ b with queue := q }, [⟨.warn, "Bridge peer is gone, dropping frame"⟩])

/-- The injecting end hands back the oldest queued frame once it knows its tap port. -/
def injectOpportunity (b : QueueBridge) : QueueBridge × List LogLine × Option Injection :=
  match b.tap.port with
  | none => (b, [], none)
  | some port =>
    match b.queue.tryReceive with
    | (q, .frame f) => ({ b with queue := q }, [], some ⟨port, f⟩)
    | (q, .empty) => ({ b with queue := q }, [], none)
    | (q, .disconnected) => ({ b with queue := q }, [⟨.debug, "Bridge queue closed"⟩], none)

/-- The session variant of one end. -/
def variant : BridgeSide → Variant QueueBridge
  | .capture =>
    { featuresKnown := fun _ b => (b, []), capture := capture,
      injectOpportunity := fun b => (b, [], none) }
  | .inject =>
    { featuresKnown := featuresKnown, capture := fun _ b => (b, []),
      injectOpportunity := injectOpportunity }

end QueueBridge

end OpenFlow
