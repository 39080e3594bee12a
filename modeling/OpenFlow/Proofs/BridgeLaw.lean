import OpenFlow.Bridge.Ipc

/-!
# The law of a bridge pair

Two sessions joined by a bridge call their variants at three points (`BridgeCall`): when the
switch's features become known, when the switch sends a frame on purpose, and when a frame may
be injected. `runCalls` gives the injections of the calls the two sessions make, one after the
other, on the state their ends share.

A bridge pair's law is a machine over a ledger (`BridgeLedger`): the frames accepted so far in
capture order, how many of them were injected, and the tap port of the most recent features
reply. A capture on the capturing end is accepted when the law admits it, given how many
accepted frames are still pending; a features reply on the injecting end looks the tap port up
by name; an opportunity on the injecting end gives the oldest pending frame once the tap port is
known and consumes nothing before; every other call does nothing (`BridgeLaw.step`). The
injections of a run are the accepted frames, in capture order and each once
(`BridgeLaw.injections_run`).

The queue pair of capacity `c` follows the law that admits a frame while fewer than `c` are
pending and hands frames back whole (`QueueBridge.runCalls_pair`). The IPC pair runs on any
system whose datagram sockets behave as `DatagramQueue` says: whole datagrams, read in the order
sent, a send refused when the frame is too long or the socket full. It follows the law that
admits a frame when its socket would, and hands it back cut to the injecting end's buffer of
65535 bytes (`IpcWorld.runCalls_joined`). `fifoSystem`, a system with one such socket, shows that
the assumption can be met, and that a frame longer than the buffer comes back short.
-/

namespace OpenFlow

/-! ### Machines that answer their inputs -/

section Machine

variable {α β ι ο : Type}

/-- The last state and the answers of a machine fed its inputs one after the other. -/
def runSteps (step : α → ι → α × ο) : α → List ι → α × List ο
  | s, [] => (s, [])
  | s, i :: is =>
    let rest := runSteps step (step s i).1 is
    (rest.1, (step s i).2 :: rest.2)

/-- Two machines that give the same answer from related states, and stay related, give the same
answers to every sequence of inputs. -/
theorem runSteps_simulate {f : α → ι → α × ο} {g : β → ι → β × ο} (R : α → β → Prop)
    (hstep : ∀ s t i, R s t → R (f s i).1 (g t i).1 ∧ (f s i).2 = (g t i).2) (is : List ι) :
    ∀ {s t}, R s t → R (runSteps f s is).1 (runSteps g t is).1 ∧
      (runSteps f s is).2 = (runSteps g t is).2 := by
  induction is with
  | nil => exact fun hR => ⟨hR, rfl⟩
  | cons i is ih =>
    intro s t hR
    obtain ⟨hR', hout⟩ := hstep s t i hR
    obtain ⟨hlast, houts⟩ := ih hR'
    exact ⟨hlast, by simp only [runSteps, hout, houts]⟩

end Machine

/-! ### Calls on a bridge's ends -/

/-- A call a session makes on its variant. -/
inductive BridgeCall where
  | featuresKnown (f : SwitchFeatures)
  | capture (frame : List UInt8)
  | injectOpportunity

section Calls

variable {σ : Type}

/-- A variant's state after a call, and the injection it answers with; its log is left out. -/
def Variant.answer (v : Variant σ) (w : σ) : BridgeCall → σ × Option Injection
  | .featuresKnown f => ((v.featuresKnown f w).1, none)
  | .capture frame => ((v.capture frame w).1, none)
  | .injectOpportunity => ((v.injectOpportunity w).1, (v.injectOpportunity w).2.2)

/-- The shared state and the injections after the sessions on the two sides of a bridge make
their calls, one after the other. -/
def runCalls (vs : BridgeSide → Variant σ) (w : σ) (calls : List (BridgeSide × BridgeCall)) :
    σ × List (Option Injection) :=
  runSteps (fun w c => (vs c.1).answer w c.2) w calls

end Calls

/-- The frames of the injections among some answers, in order. -/
def injections (outs : List (Option Injection)) : List (List UInt8) :=
  outs.filterMap (·.map Injection.frame)

theorem injections_cons (o : Option Injection) (outs : List (Option Injection)) :
    injections (o :: outs) = injections [o] ++ injections outs := by
  cases o <;> rfl

/-! ### The law -/

/-- The ledger of a bridge pair: every frame accepted so far, in capture order, how many of them
were injected, and the tap port of the most recent features reply. -/
structure BridgeLedger where
  accepted : List (List UInt8) := []
  injected : Nat := 0
  tap : Option UInt16 := none

/-- The accepted frames not yet injected, oldest first. -/
def BridgeLedger.pending (s : BridgeLedger) : List (List UInt8) :=
  s.accepted.drop s.injected

/-- The oldest pending frame is the accepted frame right after those injected; injecting it
leaves the rest pending. -/
theorem BridgeLedger.pending_eq_cons {s : BridgeLedger} {frame : List UInt8}
    {rest : List (List UInt8)} (h : s.pending = frame :: rest) :
    s.injected < s.accepted.length ∧ s.accepted[s.injected]? = some frame ∧
      s.accepted.drop (s.injected + 1) = rest := by
  have hlt : s.injected < s.accepted.length := by
    have := congrArg List.length h
    simp only [pending, List.length_drop, List.length_cons] at this
    omega
  refine ⟨hlt, ?_, ?_⟩
  · have := congrArg List.head? h
    rwa [pending, List.head?_drop] at this
  · have := congrArg List.tail h
    rwa [pending, List.tail_drop] at this

/-- Accepting a frame puts it last among the pending ones and keeps the injected frames among the
accepted. -/
theorem BridgeLedger.accept {s : BridgeLedger} (hs : s.injected ≤ s.accepted.length)
    (frame : List UInt8) :
    ({ s with accepted := s.accepted ++ [frame] } : BridgeLedger).pending = s.pending ++ [frame] ∧
      s.injected ≤ (s.accepted ++ [frame]).length := by
  refine ⟨?_, ?_⟩
  · simp [pending, List.drop_append_of_le_length hs]
  · rw [List.length_append]
    omega

/-- A bridge pair's law: the name of its tap device, which frames it admits given how many
accepted frames are pending, and what injecting a frame hands back. -/
structure BridgeLaw where
  tapName : String
  admits : Nat → List UInt8 → Bool
  deliver : List UInt8 → List UInt8

namespace BridgeLaw

/-- One call under the law. -/
def step (L : BridgeLaw) (s : BridgeLedger) :
    BridgeSide × BridgeCall → BridgeLedger × Option Injection
  | (.capture, .capture frame) =>
    (if L.admits s.pending.length frame then { s with accepted := s.accepted ++ [frame] } else s,
      none)
  | (.inject, .featuresKnown f) => ({ s with tap := (f.portNamed L.tapName).map (·.portNo) }, none)
  | (.inject, .injectOpportunity) =>
    match s.tap, s.pending with
    | some port, frame :: _ =>
      ({ s with injected := s.injected + 1 }, some ⟨port, L.deliver frame⟩)
    | _, _ => (s, none)
  | _ => (s, none)

/-- The ledger and the injections after a sequence of calls under the law. -/
def run (L : BridgeLaw) (s : BridgeLedger) (calls : List (BridgeSide × BridgeCall)) :
    BridgeLedger × List (Option Injection) :=
  runSteps L.step s calls

/-- One call keeps the injected frames a prefix of the accepted ones, and what it injects is the
next accepted frame. -/
theorem step_injections (L : BridgeLaw) {s : BridgeLedger} (hs : s.injected ≤ s.accepted.length)
    (c : BridgeSide × BridgeCall) :
    (L.step s c).1.injected ≤ (L.step s c).1.accepted.length ∧
      (s.accepted.take s.injected).map L.deliver ++ injections [(L.step s c).2] =
        ((L.step s c).1.accepted.take (L.step s c).1.injected).map L.deliver := by
  rcases c with ⟨_ | _, f | frame | _⟩
  case capture.capture =>
    simp only [step]
    split
    · refine ⟨(BridgeLedger.accept hs frame).2, ?_⟩
      simp [injections, List.take_append_of_le_length hs]
    · simp [injections, hs]
  case inject.injectOpportunity =>
    simp only [step]
    rcases htap : s.tap with _ | port
    · simp [injections, hs]
    rcases hpend : s.pending with _ | ⟨frame, rest⟩
    · simp [injections, hs]
    obtain ⟨hlt, hframe, -⟩ := BridgeLedger.pending_eq_cons hpend
    refine ⟨hlt, ?_⟩
    simp [injections, List.take_add_one, hframe]
  all_goals simp [step, injections, hs]

/-- The injections of a run are the accepted frames, in capture order and each once, as the law
hands them back. The invariant carried along the run is that what was injected so far is a
prefix of the accepted frames. -/
theorem injections_run (L : BridgeLaw) (calls : List (BridgeSide × BridgeCall)) :
    injections (L.run {} calls).2 =
      ((L.run {} calls).1.accepted.take (L.run {} calls).1.injected).map L.deliver := by
  suffices h : ∀ (s : BridgeLedger), s.injected ≤ s.accepted.length →
      (s.accepted.take s.injected).map L.deliver ++ injections (L.run s calls).2 =
        ((L.run s calls).1.accepted.take (L.run s calls).1.injected).map L.deliver ∧
      (L.run s calls).1.injected ≤ (L.run s calls).1.accepted.length by
    simpa using (h {} (Nat.zero_le _)).1
  induction calls with
  | nil => intro s hs; simp [run, runSteps, injections, hs]
  | cons c calls ih =>
    intro s hs
    obtain ⟨hle, hstep⟩ := L.step_injections hs c
    obtain ⟨hrest, hlast⟩ := ih _ hle
    refine ⟨?_, hlast⟩
    simp only [run, runSteps] at hrest ⊢
    rw [injections_cons, ← List.append_assoc, hstep, hrest]

end BridgeLaw

/-! ### The queue pair -/

theorem TapPort.update_fst (t : TapPort) (f : SwitchFeatures) :
    (t.update f).1 = { t with port := (f.portNamed t.name).map (·.portNo) } := by
  unfold TapPort.update
  cases f.portNamed t.name <;> rfl

theorem FrameQueue.trySend_fst {q : FrameQueue} (hopen : q.receiverOpen = true)
    (frame : List UInt8) : (q.trySend frame).1 =
      if q.frames.length < q.capacity then { q with frames := q.frames ++ [frame] } else q := by
  unfold FrameQueue.trySend
  simp only [hopen, Bool.not_true, Bool.false_eq_true, if_false]
  split <;> rfl

namespace FrameQueue

theorem tryReceive_nil {q : FrameQueue} (hq : q.frames = []) (hopen : q.senderOpen = true) :
    q.tryReceive = (q, .empty) := by
  rw [tryReceive, hq, hopen]
  rfl

theorem tryReceive_cons {q : FrameQueue} {frame : List UInt8} {rest : List (List UInt8)}
    (hq : q.frames = frame :: rest) : q.tryReceive = ({ q with frames := rest }, .frame frame) := by
  rw [tryReceive, hq]

end FrameQueue

namespace QueueBridge

theorem capture_fst (frame : List UInt8) (b : QueueBridge) :
    (capture frame b).1 = { b with queue := (b.queue.trySend frame).1 } := by
  unfold capture
  rcases b.queue.trySend frame with ⟨q, _ | _ | _⟩ <;> rfl

theorem injectOpportunity_of_unknown {b : QueueBridge} (h : b.tap.port = none) :
    injectOpportunity b = (b, [], none) := by
  rw [injectOpportunity, h]

theorem injectOpportunity_of_empty {b : QueueBridge} {port : UInt16} (h : b.tap.port = some port)
    (hq : b.queue.tryReceive = (b.queue, .empty)) : injectOpportunity b = (b, [], none) := by
  rw [injectOpportunity, h]
  simp only [hq]

theorem injectOpportunity_of_frame {b : QueueBridge} {port : UInt16} {q : FrameQueue}
    {frame : List UInt8} (h : b.tap.port = some port) (hq : b.queue.tryReceive = (q, .frame frame)) :
    injectOpportunity b = ({ b with queue := q }, [], some ⟨port, frame⟩) := by
  rw [injectOpportunity, h]
  simp only [hq]

/-- The law of a queue pair of capacity `c`: a frame is admitted while fewer than `c` accepted
frames are pending, and frames are handed back whole. -/
def law (c : Nat) (name : String) : BridgeLaw :=
  ⟨name, fun pending _ => decide (pending < c), id⟩

@[simp] theorem law_tapName (c : Nat) (name : String) : (law c name).tapName = name := rfl

@[simp] theorem law_admits (c : Nat) (name : String) (n : Nat) (frame : List UInt8) :
    (law c name).admits n frame = decide (n < c) := rfl

@[simp] theorem law_deliver (c : Nat) (name : String) (frame : List UInt8) :
    (law c name).deliver frame = frame := rfl

/-- A queue bridge that keeps a ledger: both ends are open, its queue of capacity `c` holds the
pending frames, and its tap port is the ledger's. -/
def Keeps (c : Nat) (name : String) (b : QueueBridge) (s : BridgeLedger) : Prop :=
  b.queue = { capacity := c, frames := s.pending } ∧ b.tap = { name, port := s.tap } ∧
    s.injected ≤ s.accepted.length

theorem keeps_pair (c : Nat) (name : String) : Keeps c name (pair c name) {} :=
  ⟨rfl, rfl, Nat.le_refl 0⟩

/-- Every call keeps the ledger and answers as the law does. -/
theorem keeps_step {c : Nat} {name : String} {b : QueueBridge} {s : BridgeLedger}
    (hk : Keeps c name b s) (call : BridgeSide × BridgeCall) :
    Keeps c name ((variant call.1).answer b call.2).1 ((law c name).step s call).1 ∧
      ((variant call.1).answer b call.2).2 = ((law c name).step s call).2 := by
  have ⟨hq, ht, hs⟩ := hk
  rcases call with ⟨_ | _, f | frame | _⟩
  case capture.capture =>
    refine ⟨?_, rfl⟩
    have hsend := FrameQueue.trySend_fst (show b.queue.receiverOpen = true by rw [hq]) frame
    have hroom : b.queue.frames.length < b.queue.capacity ↔ s.pending.length < c := by rw [hq]
    simp only [variant, Variant.answer, capture_fst, hsend, BridgeLaw.step]
    by_cases hfits : s.pending.length < c
    · have hadmit : (law c name).admits s.pending.length frame = true := decide_eq_true hfits
      rw [if_pos (hroom.2 hfits), if_pos hadmit]
      obtain ⟨hpend, hle⟩ := BridgeLedger.accept hs frame
      refine ⟨?_, ht, hle⟩
      rw [hq, hpend]
    · have hrefuse : ¬(law c name).admits s.pending.length frame = true := by simpa using hfits
      rw [if_neg (mt hroom.1 hfits), if_neg hrefuse]
      exact hk
  case inject.featuresKnown =>
    refine ⟨?_, rfl⟩
    simp only [variant, Variant.answer, featuresKnown, TapPort.update_fst, BridgeLaw.step,
      law_tapName, ht]
    exact ⟨hq, rfl, hs⟩
  case inject.injectOpportunity =>
    have hport : b.tap.port = s.tap := by rw [ht]
    simp only [variant, Variant.answer, BridgeLaw.step, law_deliver]
    rcases htap : s.tap with _ | port
    · rw [injectOpportunity_of_unknown (hport.trans htap)]
      exact ⟨hk, rfl⟩
    rcases hpend : s.pending with _ | ⟨frame, rest⟩
    · have hrecv : b.queue.tryReceive = (b.queue, .empty) :=
        FrameQueue.tryReceive_nil (by rw [hq, hpend]) (by rw [hq])
      rw [injectOpportunity_of_empty (hport.trans htap) hrecv]
      exact ⟨hk, rfl⟩
    · have hrecv := FrameQueue.tryReceive_cons
        (show b.queue.frames = frame :: rest by rw [hq, hpend])
      obtain ⟨hlt, -, hrest⟩ := BridgeLedger.pending_eq_cons hpend
      rw [injectOpportunity_of_frame (hport.trans htap) hrecv]
      refine ⟨⟨?_, by rw [ht, htap], hlt⟩, rfl⟩
      show { b.queue with frames := rest } =
        { capacity := c, frames := s.accepted.drop (s.injected + 1) }
      rw [hrest, hq]
  all_goals exact ⟨hk, rfl⟩

/-- A queue pair answers every sequence of calls as the law of its capacity and tap name does. -/
theorem runCalls_pair (c : Nat) (name : String) (calls : List (BridgeSide × BridgeCall)) :
    (runCalls variant (pair c name) calls).2 = ((law c name).run {} calls).2 :=
  (runSteps_simulate (Keeps c name) (fun _ _ call hk => keeps_step hk call) calls
    (keeps_pair c name)).2

end QueueBridge

/-! ### System calls -/

theorem SysM.run'_bind {σ α β : Type} (x : SysM σ α) (f : α → SysM σ β) (s : σ) :
    (x >>= f).run' s = match x.run' s with
      | (.ok a, s') => (f a).run' s'
      | (.error e, s') => (.error e, s') := by
  simp only [SysM.run', bind, ExceptT.bind, ExceptT.run, ExceptT.mk, StateT.bind, StateT.run]
  rcases x s with ⟨_ | _, _⟩ <;> rfl

section Datagrams

variable {σ : Type}

/-- What an IPC pair relies on of the system's datagram sockets under the name `path`.
`Holds s id q` says that in state `s` the name leads to the datagram socket `id`, where the
datagrams `q` wait, oldest first. A socket bound under the name is empty and is the one the name
leads to. A datagram is kept whole and read in the order sent. A send is refused, changing
nothing, when the frame is longer than `maxDatagram` bytes or `capacity` datagrams already wait.
A read takes the oldest datagram and loses what does not fit the buffer, and finds none
(`wouldBlock`), changing nothing, when none waits. -/
structure DatagramQueue (os : Syscalls σ) (path : String) (maxDatagram capacity : Nat)
    (Holds : σ → Nat → List (List UInt8) → Prop) : Prop where
  bind_empty : ∀ {s s' : σ} {id : Nat}, (os.bindDatagram path).run' s = (.ok id, s') →
    Holds s' id []
  send_kept : ∀ {s : σ} {id : Nat} {q : List (List UInt8)} (frame : List UInt8), Holds s id q →
    frame.length ≤ maxDatagram → q.length < capacity →
    ∃ s', (os.sendTo path frame).run' s = (.ok (), s') ∧ Holds s' id (q ++ [frame])
  send_refused : ∀ {s : σ} {id : Nat} {q : List (List UInt8)} (frame : List UInt8), Holds s id q →
    ¬(frame.length ≤ maxDatagram ∧ q.length < capacity) →
    ∃ e, (os.sendTo path frame).run' s = (.error e, s)
  recv_oldest : ∀ {s : σ} {id : Nat} {d : List UInt8} {q : List (List UInt8)} (room : Nat),
    Holds s id (d :: q) → ∃ s', (os.recv id room).run' s = (.ok (d.take room), s') ∧ Holds s' id q
  recv_none : ∀ {s : σ} {id : Nat} (room : Nat), Holds s id [] →
    (os.recv id room).run' s = (.error .wouldBlock, s)

end Datagrams

/-! ### The IPC pair -/

namespace IpcBridge

variable {σ : Type} {os : Syscalls σ} {path : String} {t : TapPort} {h : σ}

/-- An injecting end that opened is the datagram socket it bound, and knows no tap port yet. -/
theorem inject_ok {name : String} {s s' : σ} {b : IpcBridge}
    (hok : (inject os path name).run' s = (.ok b, s')) :
    ∃ s₁ id, (os.bindDatagram path).run' s₁ = (.ok id, s') ∧ b = ⟨.inject id, { name }⟩ := by
  simp only [inject, SysM.run'_bind] at hok
  rcases hstale : (os.removeStale path).run' s with ⟨_ | _, s₁⟩ <;> simp only [hstale] at hok
  · cases hok
  rcases hbind : (os.bindDatagram path).run' s₁ with ⟨_ | id, s₂⟩ <;> simp only [hbind] at hok
  · cases hok
  cases hok
  exact ⟨s₁, id, hbind, rfl⟩

theorem onCapture_of_capture (frame : List UInt8) :
    ((⟨.capture path, t⟩ : IpcBridge).onCapture os frame h).1 = ((os.sendTo path frame).run' h).2 := by
  unfold onCapture
  dsimp only
  rcases (os.sendTo path frame).run' h with ⟨_ | _, h'⟩
  case error e => cases e <;> rfl
  case ok => rfl

theorem injectOpportunity_of_unknown {id : Nat} (hport : t.port = none) :
    (⟨.inject id, t⟩ : IpcBridge).injectOpportunity os h = (h, [], none) := by
  rw [injectOpportunity, hport]

theorem injectOpportunity_of_frame {id : Nat} {port : UInt16} (hport : t.port = some port)
    {f : List UInt8} {h' : σ} (hrecv : (os.recv id ipcBufferSize).run' h = (.ok f, h')) :
    (⟨.inject id, t⟩ : IpcBridge).injectOpportunity os h = (h', [], some ⟨port, f⟩) := by
  rw [injectOpportunity, hport]
  simp only [hrecv]

theorem injectOpportunity_of_none {id : Nat} {port : UInt16} (hport : t.port = some port)
    {h' : σ} (hrecv : (os.recv id ipcBufferSize).run' h = (.error .wouldBlock, h')) :
    (⟨.inject id, t⟩ : IpcBridge).injectOpportunity os h = (h', [], none) := by
  rw [injectOpportunity, hport]
  simp only [hrecv]

end IpcBridge

namespace IpcWorld

variable {σ : Type} {os : Syscalls σ} {path : String} {maxDatagram capacity : Nat}
  {Holds : σ → Nat → List (List UInt8) → Prop}

/-- The law of an IPC pair whose socket keeps datagrams of at most `maxDatagram` bytes, at most
`capacity` of them waiting: a frame is admitted while it fits a datagram and fewer than
`capacity` accepted frames are pending, and a frame comes back cut to the 65535 bytes of the
injecting end's buffer. -/
def law (maxDatagram capacity : Nat) (name : String) : BridgeLaw :=
  ⟨name, fun pending frame => decide (frame.length ≤ maxDatagram ∧ pending < capacity),
    fun frame => frame.take ipcBufferSize⟩

@[simp] theorem law_tapName (name : String) : (law maxDatagram capacity name).tapName = name := rfl

@[simp] theorem law_deliver (name : String) (frame : List UInt8) :
    (law maxDatagram capacity name).deliver frame = frame.take ipcBufferSize := rfl

/-- The pair as a controller sets it up: a capturing end sending to `path` and an injecting end
`b` that opened there, on the system in state `s`. -/
def pair (s : σ) (path : String) (b : IpcBridge) : IpcWorld σ :=
  { host := s, capture := some (IpcBridge.capture path), inject := some b }

/-- An IPC world that keeps a ledger: the capturing end sends to `path`, which leads to the
injecting end's socket `id`; the datagrams waiting there are the pending frames, and the
injecting end's tap port is the ledger's. -/
def Keeps (Holds : σ → Nat → List (List UInt8) → Prop) (path name : String) (id : Nat)
    (w : IpcWorld σ) (s : BridgeLedger) : Prop :=
  (∃ t, w.capture = some ⟨.capture path, t⟩) ∧ w.inject = some ⟨.inject id, { name, port := s.tap }⟩ ∧
    Holds w.host id s.pending ∧ s.injected ≤ s.accepted.length

/-- Every call keeps the ledger and answers as the law does. -/
theorem keeps_step (hq : DatagramQueue os path maxDatagram capacity Holds) {name : String}
    {id : Nat} {w : IpcWorld σ} {s : BridgeLedger} (hk : Keeps Holds path name id w s)
    (call : BridgeSide × BridgeCall) :
    Keeps Holds path name id ((variant os call.1).answer w call.2).1
        ((law maxDatagram capacity name).step s call).1 ∧
      ((variant os call.1).answer w call.2).2 = ((law maxDatagram capacity name).step s call).2 := by
  have ⟨⟨t, hcap⟩, hinj, hheld, hs⟩ := hk
  have hbc : w.bridge .capture = some ⟨.capture path, t⟩ := hcap
  have hbi : w.bridge .inject = some ⟨.inject id, { name, port := s.tap }⟩ := hinj
  rcases call with ⟨_ | _, f | frame | _⟩
  case capture.capture =>
    refine ⟨?_, rfl⟩
    simp only [variant, Variant.answer, hbc, IpcBridge.onCapture_of_capture, BridgeLaw.step]
    by_cases hadmit : frame.length ≤ maxDatagram ∧ s.pending.length < capacity
    · obtain ⟨h', hsend, hkept⟩ := hq.send_kept frame hheld hadmit.1 hadmit.2
      have hlaw : (law maxDatagram capacity name).admits s.pending.length frame = true :=
        decide_eq_true hadmit
      obtain ⟨hpend, hle⟩ := BridgeLedger.accept hs frame
      rw [hsend, if_pos hlaw]
      exact ⟨⟨t, hcap⟩, hinj, hpend ▸ hkept, hle⟩
    · obtain ⟨e, hsend⟩ := hq.send_refused frame hheld hadmit
      have hlaw : ¬(law maxDatagram capacity name).admits s.pending.length frame = true := by
        simpa [law] using hadmit
      rw [hsend, if_neg hlaw]
      exact hk
  case inject.featuresKnown =>
    refine ⟨?_, rfl⟩
    simp only [variant, Variant.answer, hbi, IpcBridge.featuresKnown, TapPort.update_fst,
      setBridge, BridgeLaw.step, law_tapName]
    exact ⟨⟨t, hcap⟩, rfl, hheld, hs⟩
  case inject.injectOpportunity =>
    simp only [variant, Variant.answer, hbi, BridgeLaw.step, law_deliver]
    rcases htap : s.tap with _ | port
    · rw [IpcBridge.injectOpportunity_of_unknown rfl]
      exact ⟨hk, rfl⟩
    rcases hpend : s.pending with _ | ⟨frame, rest⟩
    · rw [IpcBridge.injectOpportunity_of_none rfl (hq.recv_none _ (hpend ▸ hheld))]
      exact ⟨hk, rfl⟩
    · rw [hpend] at hheld
      obtain ⟨h', hrecv, hrest⟩ := hq.recv_oldest ipcBufferSize hheld
      obtain ⟨hlt, -, hdrop⟩ := BridgeLedger.pending_eq_cons hpend
      rw [IpcBridge.injectOpportunity_of_frame rfl hrecv]
      refine ⟨⟨⟨t, hcap⟩, by rw [hinj, htap], ?_, hlt⟩, rfl⟩
      show Holds h' id (s.accepted.drop (s.injected + 1))
      rw [hdrop]
      exact hrest
  case capture.featuresKnown =>
    simp only [variant, Variant.answer, hbc, IpcBridge.featuresKnown, setBridge, BridgeLaw.step]
    exact ⟨⟨⟨t, rfl⟩, hinj, hheld, hs⟩, by trivial⟩
  case capture.injectOpportunity =>
    simp only [variant, Variant.answer, hbc, IpcBridge.injectOpportunity, BridgeLaw.step]
    exact ⟨hk, by trivial⟩
  case inject.capture =>
    simp only [variant, Variant.answer, hbi, IpcBridge.onCapture, BridgeLaw.step]
    exact ⟨hk, by trivial⟩

/-- An IPC pair on one path, its injecting end just opened, answers every sequence of calls as
the IPC law of its socket does. -/
theorem runCalls_joined (hq : DatagramQueue os path maxDatagram capacity Holds) {name : String}
    {s s' : σ} {b : IpcBridge} (hinject : (IpcBridge.inject os path name).run' s = (.ok b, s'))
    (calls : List (BridgeSide × BridgeCall)) :
    (runCalls (variant os) (pair s' path b) calls).2 =
      ((law maxDatagram capacity name).run {} calls).2 := by
  obtain ⟨s₁, id, hbind, rfl⟩ := IpcBridge.inject_ok hinject
  exact (runSteps_simulate (Keeps Holds path name id) (fun _ _ call hk => keeps_step hq hk call)
    calls ⟨⟨_, rfl⟩, rfl, hq.bind_empty hbind, Nat.le_refl 0⟩).2

end IpcWorld

/-! ### Both pairs -/

/-- Both bridge pairs follow their laws, and a law injects exactly the frames it accepted, in
capture order and each once. The queue pair of capacity `c` admits a frame while fewer than `c`
accepted frames are pending and hands it back whole. The IPC pair on one path, on any system
whose datagram sockets keep whole datagrams in the order sent, admits a frame while it fits a
datagram and the socket has room, and hands it back cut to 65535 bytes. -/
theorem bridge_pairs_follow_laws :
    (∀ (c : Nat) (name : String) (calls : List (BridgeSide × BridgeCall)),
      (runCalls QueueBridge.variant (QueueBridge.pair c name) calls).2 =
        ((QueueBridge.law c name).run {} calls).2) ∧
    (∀ {σ : Type} (os : Syscalls σ) (path name : String) (maxDatagram capacity : Nat)
      (Holds : σ → Nat → List (List UInt8) → Prop),
      DatagramQueue os path maxDatagram capacity Holds →
      ∀ (s s' : σ) (b : IpcBridge), (IpcBridge.inject os path name).run' s = (.ok b, s') →
      ∀ calls : List (BridgeSide × BridgeCall),
      (runCalls (IpcWorld.variant os) (IpcWorld.pair s' path b) calls).2 =
        ((IpcWorld.law maxDatagram capacity name).run {} calls).2) ∧
    ∀ (L : BridgeLaw) (calls : List (BridgeSide × BridgeCall)),
      injections (L.run {} calls).2 =
        ((L.run {} calls).1.accepted.take (L.run {} calls).1.injected).map L.deliver :=
  ⟨QueueBridge.runCalls_pair,
    fun _ _ _ _ _ _ hq _ _ _ hinject => IpcWorld.runCalls_joined hq hinject,
    BridgeLaw.injections_run⟩

/-! ### A system with one FIFO datagram socket -/

/-- A system whose one socket is a datagram socket, number `0`, that every name leads to: it keeps
the datagrams waiting in a list, refuses one longer than `maxDatagram` bytes or beyond `capacity`
waiting, and reads the oldest into the buffer. It has no files and no stream sockets. -/
def fifoSystem (maxDatagram capacity : Nat) : Syscalls (List (List UInt8)) where
  removeFile _ := throw .notFound
  mkdir _ := throw .notFound
  isDir _ := pure false
  openForWriting _ := throw .notFound
  listen _ := throw .invalidArgument
  accept _ := throw .invalidArgument
  connect _ := throw .connectionRefused
  bindDatagram _ := ExceptT.mk fun _ => (.ok 0, [])
  sendTo _ frame := ExceptT.mk fun q =>
    if frame.length ≤ maxDatagram ∧ q.length < capacity then (.ok (), q ++ [frame])
    else (.error .wouldBlock, q)
  recv _ room := ExceptT.mk fun q =>
    match q with
    | [] => (.error .wouldBlock, [])
    | d :: rest => (.ok (d.take room), rest)
  close _ q := q

/-- The one socket of `fifoSystem` behaves as the IPC pair assumes. -/
theorem fifoSystem_queue (path : String) (maxDatagram capacity : Nat) :
    DatagramQueue (fifoSystem maxDatagram capacity) path maxDatagram capacity
      (fun s _ q => s = q) where
  bind_empty hbind := by
    cases hbind
    rfl
  send_kept frame hq hlen hroom := by
    subst hq
    exact ⟨_, if_pos ⟨hlen, hroom⟩, rfl⟩
  send_refused frame hq hfull := by
    subst hq
    exact ⟨.wouldBlock, if_neg hfull⟩
  recv_oldest room hq := by
    subst hq
    exact ⟨_, rfl, rfl⟩
  recv_none room hq := by
    subst hq
    rfl

/-- A switch whose port 2 is the tap device. -/
def tapSwitch : SwitchFeatures :=
  { datapathId := 1, numBuffers := 0, numTables := 1, capabilities := 0, actions := 0,
    ports :=
      [{ portNo := 2, hwAddr := MacAddr.zero, name := "tapdevice", config := 0, state := 0,
         curr := 0, advertised := 0, supported := 0, peer := 0 }] }

/-- The injecting end of an IPC pair opened on `fifoSystem`. -/
def fifoInject : IpcBridge :=
  ⟨.inject 0, { name := "tapdevice" }⟩

theorem fifoInject_opens :
    (IpcBridge.inject (fifoSystem 212960 11) "s" "tapdevice").run' [] = (.ok fifoInject, []) :=
  rfl

theorem ipc_pair_follows_law :
    DatagramQueue (fifoSystem 212960 11) "s" 212960 11 (fun s _ q => s = q) ∧
    (IpcBridge.inject (fifoSystem 212960 11) "s" "tapdevice").run' [] = (.ok fifoInject, []) ∧
      (runCalls (IpcWorld.variant (fifoSystem 212960 11)) (IpcWorld.pair [] "s" fifoInject)
        [(.inject, .featuresKnown tapSwitch), (.capture, .capture [1, 2, 3]),
          (.inject, .injectOpportunity)]).2 =
      ((IpcWorld.law 212960 11 "tapdevice").run {}
        [(.inject, .featuresKnown tapSwitch), (.capture, .capture [1, 2, 3]),
          (.inject, .injectOpportunity)]).2 :=
  ⟨fifoSystem_queue "s" 212960 11, fifoInject_opens,
    bridge_pairs_follow_laws.2.1 (fifoSystem 212960 11) "s" "tapdevice" 212960 11 _
      (fifoSystem_queue "s" 212960 11) [] [] fifoInject fifoInject_opens _⟩

/-- A frame one byte longer than the injecting end's buffer, sent whole through a socket that
keeps it whole, comes back from the IPC pair one byte short. -/
theorem ipc_pair_cuts_long_frame :
    (runCalls (IpcWorld.variant (fifoSystem 212960 11)) (IpcWorld.pair [] "s" fifoInject)
      [(.inject, .featuresKnown tapSwitch), (.capture, .capture (List.replicate 65536 7)),
        (.inject, .injectOpportunity)]).2 =
      [none, none, some ⟨2, List.replicate 65535 7⟩] := by
  rw [IpcWorld.runCalls_joined (fifoSystem_queue "s" 212960 11) fifoInject_opens]
  have hrun : ∀ frame : List UInt8, frame.length ≤ 212960 →
      ((IpcWorld.law 212960 11 "tapdevice").run {} [(.inject, .featuresKnown tapSwitch),
        (.capture, .capture frame), (.inject, .injectOpportunity)]).2 =
        [none, none, some ⟨2, frame.take ipcBufferSize⟩] := by
    intro frame hlen
    have hport : (tapSwitch.portNamed "tapdevice").map (·.portNo) = some 2 := rfl
    have hadmit : (IpcWorld.law 212960 11 "tapdevice").admits 0 frame = true :=
      decide_eq_true ⟨hlen, by decide⟩
    simp only [BridgeLaw.run, runSteps, BridgeLaw.step, IpcWorld.law_tapName, hport,
      BridgeLedger.pending, List.drop_zero, List.length_nil, hadmit, if_true, List.nil_append,
      IpcWorld.law_deliver]
  have hlen : (List.replicate 65536 (7 : UInt8)).length ≤ 212960 := by
    rw [List.length_replicate]
    decide
  rw [hrun _ hlen, List.take_replicate]
  rfl

end OpenFlow
