import OpenFlow.Proofs.Rounds

/-!
# Two sessions joined by a queue bridge

A queue pair of capacity `c` joins a capturing session and an injecting one (`QueueBridge.pair`).
Run the capturing session on one input, then the injecting session on another from the bridge the
first left. By `Session.run_consults` each is the learning switch with its end of the bridge
consulted round by round, so what the pair does is what its two ends do with the rounds.

The capturing end appends the frames its rounds hand over as sent on purpose (`capturedFrames`)
while fewer than `c` are queued, and never injects (`Round.consult_capture`). The injecting end
looks its tap port up in every features reply it is handed (`Round.tapAfter`), and each round that
answered a packet-in takes the oldest queued frame once the tap port is known (`handBack`). So
the frames handed back are the first captured frames, in order and each once, as many as the
injecting session answered packet-ins with the tap port known (`injections_handBack`). Each goes out
right after the answer to its packet-in, as a packet-out through the tap port, unless it is too
long for a packet-out: then it has left the queue and is lost (`injectionWrites_eq_nil_iff`).
The main statement is `queue_pair_moves_captured_frames`.
-/

namespace OpenFlow

/-- The frames the rounds hand over as sent on purpose, oldest first. -/
def capturedFrames (rounds : List Round) : List (List UInt8) :=
  rounds.filterMap Round.capture?

/-- The tap port known after a round, from the one known before it: a features reply the round
hands over looks the port named `name` up again. -/
def Round.tapAfter (r : Round) (name : String) (tap : Option UInt16) : Option UInt16 :=
  r.reply?.elim tap fun f => (f.portNamed name).map (·.portNo)

/-- The injections the injecting end of a queue pair hands back over the rounds, from the tap
port known and the frames queued: a round that answered a packet-in takes the oldest frame, to go
out through the tap port, once that port is known. -/
def handBack (name : String) : Option UInt16 → List (List UInt8) → List Round → List (Option Injection)
  | _, _, [] => []
  | tap, q, r :: rs =>
    match r.answered, r.tapAfter name tap, q with
    | true, some port, frame :: rest => some ⟨port, frame⟩ :: handBack name (r.tapAfter name tap) rest rs
    | _, _, _ => none :: handBack name (r.tapAfter name tap) q rs

/-- The number of rounds that answered a packet-in with the tap port known. -/
def tappedAnswers (name : String) : Option UInt16 → List Round → Nat
  | _, [] => 0
  | tap, r :: rs =>
    (if r.answered ∧ (r.tapAfter name tap).isSome then 1 else 0) +
      tappedAnswers name (r.tapAfter name tap) rs

/-- A round that answered a packet-in with the tap port known takes the oldest queued frame. -/
theorem handBack_taken {name : String} {tap : Option UInt16} {r : Round} {rs : List Round}
    {port : UInt16} {frame : List UInt8} {rest : List (List UInt8)} (ha : r.answered = true)
    (ht : r.tapAfter name tap = some port) :
    handBack name tap (frame :: rest) (r :: rs) =
      some ⟨port, frame⟩ :: handBack name (some port) rest rs := by
  simp only [handBack, ha, ht]

/-- Any other round takes nothing. -/
theorem handBack_skipped {name : String} {tap : Option UInt16} {q : List (List UInt8)} {r : Round}
    {rs : List Round} (hskip : r.answered = false ∨ r.tapAfter name tap = none ∨ q = []) :
    handBack name tap q (r :: rs) = none :: handBack name (r.tapAfter name tap) q rs := by
  rw [handBack.eq_def]
  dsimp only
  split
  · rcases hskip with hskip | hskip | hskip <;> simp_all
  · rfl

/-- The injecting end hands back the first queued frames, in order and each once: one for every
round that answered a packet-in with the tap port known, while frames last. -/
theorem injections_handBack (name : String) (rounds : List Round) :
    ∀ (tap : Option UInt16) (q : List (List UInt8)),
      injections (handBack name tap q rounds) = q.take (tappedAnswers name tap rounds) := by
  induction rounds with
  | nil => intro _ _; rfl
  | cons r rs ih =>
    intro tap q
    rw [tappedAnswers]
    rcases ha : r.answered with _ | _
    · rw [handBack_skipped (.inl ha), injections_cons, ih]
      simp only [Bool.false_eq_true, false_and, if_false, Nat.zero_add]
      rfl
    rcases ht : r.tapAfter name tap with _ | port
    · rw [handBack_skipped (.inr (.inl ht)), injections_cons, ih, ht]
      simp only [Option.isSome_none, Bool.false_eq_true, and_false, if_false, Nat.zero_add]
      rfl
    rcases q with _ | ⟨frame, rest⟩
    · rw [handBack_skipped (.inr (.inr rfl)), injections_cons, ih, List.take_nil, List.take_nil]
      rfl
    · rw [handBack_taken ha ht, injections_cons, ih]
      simp only [Option.isSome_some, and_self, if_true, Nat.add_comm 1, List.take_succ_cons]
      rfl

/-- An injection's packet-out is 24 bytes longer than its frame: the header, the fixed part and
its one action. -/
theorem Injection.message_size (inj : Injection) : inj.message.size = 24 + inj.frame.length := by
  simp only [Injection.message, Message.size, Message.bodySize, PacketOut.size, PacketOut.fixedSize,
    PacketOut.carriedData, Action.size, Header.size, List.length_singleton]
  omega

/-- So an injection goes out unless its frame is longer than 65511 bytes: then its packet-out no
longer fits the length field, and nothing is written for it. -/
theorem injectionWrites_eq_nil_iff (v : UInt8) (inj : Injection) :
    injectionWrites v (some inj) = [] ↔ 65511 < inj.frame.length := by
  have hwrites : injectionWrites v (some inj) = [] ↔ ∃ e, Message.encode v 0 inj.message = .error e := by
    simp only [injectionWrites]
    rcases Message.encode v 0 inj.message with e | bytes <;> simp
  rw [hwrites, Message.encode_eq_error_iff, Injection.message_size]
  simp only [Injection.message, Message.outputsToTable, Message.maxSize, Bool.false_eq_true, or_false]
  omega

/-! ### The capturing end -/

theorem take_append_singleton (l : List (List UInt8)) (a : List UInt8) (c : Nat) :
    (l ++ [a]).take c = if (l.take c).length < c then l.take c ++ [a] else l.take c := by
  rw [List.take_append, List.length_take]
  by_cases hl : l.length < c
  · rw [if_pos (by omega), List.take_of_length_le (show [a].length ≤ c - l.length by simp; omega)]
  · rw [if_neg (by omega), show c - l.length = 0 by omega, List.take_zero, List.append_nil]

/-- The capturing end consulted by a round: the frame handed over, if any, is offered to the
queue, and nothing is ever handed back. -/
theorem Round.consult_capture (r : Round) (b : QueueBridge) :
    r.consult (QueueBridge.variant .capture) b =
      (r.capture?.elim b fun frame => (QueueBridge.capture frame b).1, none) := by
  have hreply : (r.reply?.elim b fun f => ((QueueBridge.variant .capture).featuresKnown f b).1) = b := by
    cases r.reply? <;> rfl
  simp only [Round.consult, hreply]
  split <;> rfl

theorem capturedFrames_cons (r : Round) (rs : List Round) :
    capturedFrames (r :: rs) = r.capture?.toList ++ capturedFrames rs := by
  rw [capturedFrames, List.filterMap_cons]
  cases r.capture? <;> rfl

/-- A capturing end whose queue holds the first `c` frames offered to it still does once a round
has offered its frame, if it hands one over. -/
theorem capture_keeps_first (r : Round) (c : Nat) (tap : TapPort) (offered : List (List UInt8)) :
    (r.capture?.elim ⟨{ capacity := c, frames := offered.take c }, tap⟩ fun frame =>
        (QueueBridge.capture frame ⟨{ capacity := c, frames := offered.take c }, tap⟩).1) =
      ⟨{ capacity := c, frames := (offered ++ r.capture?.toList).take c }, tap⟩ := by
  rcases r.capture? with _ | frame
  · simp only [Option.elim_none, Option.toList_none, List.append_nil]
  · have hsend := FrameQueue.trySend_fst
      (show ({ capacity := c, frames := offered.take c } : FrameQueue).receiverOpen = true from rfl) frame
    rw [Option.elim_some, QueueBridge.capture_fst, hsend, Option.toList_some, take_append_singleton]
    split <;> rfl

/-- Over any rounds, the capturing end keeps the first `c` frames offered to its queue: those
offered before, then the ones the rounds capture. It hands nothing back. -/
theorem consultAll_capture (c : Nat) (tap : TapPort) (rounds : List Round) :
    ∀ offered : List (List UInt8),
      Session.consultAll (QueueBridge.variant .capture)
          ⟨{ capacity := c, frames := offered.take c }, tap⟩ rounds =
        (⟨{ capacity := c, frames := (offered ++ capturedFrames rounds).take c }, tap⟩,
          List.replicate rounds.length none) := by
  induction rounds with
  | nil => intro _; simp [Session.consultAll, runSteps, capturedFrames]
  | cons r rs ih =>
    intro offered
    rw [Session.consultAll_cons, Round.consult_capture, capture_keeps_first, ih, capturedFrames_cons,
      List.append_assoc, List.length_cons, List.replicate_succ]

theorem zipWith_output_unanswered (rounds : List Round) :
    List.zipWith Round.output rounds (List.replicate rounds.length none) = rounds.map Round.writes := by
  induction rounds with
  | nil => rfl
  | cons r rs ih => simp [List.replicate_succ, Round.output, injectionWrites, ih]

/-! ### The injecting end -/

/-- The injecting end consulted by a round: a features reply looks the tap port up again, and a
round that answered a packet-in then gives the end its chance to hand a frame back. -/
theorem Round.consult_inject (r : Round) (q : FrameQueue) (name : String) (tap : Option UInt16) :
    r.consult (QueueBridge.variant .inject) ⟨q, { name, port := tap }⟩ =
      if r.answered then
        ((QueueBridge.injectOpportunity ⟨q, { name, port := r.tapAfter name tap }⟩).1,
          (QueueBridge.injectOpportunity ⟨q, { name, port := r.tapAfter name tap }⟩).2.2)
      else (⟨q, { name, port := r.tapAfter name tap }⟩, none) := by
  have hreply : (r.reply?.elim ⟨q, { name, port := tap }⟩ fun f =>
      ((QueueBridge.variant .inject).featuresKnown f ⟨q, { name, port := tap }⟩).1) =
        ⟨q, { name, port := r.tapAfter name tap }⟩ := by
    rcases hr : r.reply? with _ | f
    · simp [Round.tapAfter, hr]
    · simp [Round.tapAfter, hr, QueueBridge.variant, QueueBridge.featuresKnown, TapPort.update_fst]
  have hcapture : ∀ b : QueueBridge,
      (r.capture?.elim b fun frame => ((QueueBridge.variant .inject).capture frame b).1) = b := by
    intro b
    cases r.capture? <;> rfl
  simp only [Round.consult, hreply, hcapture]
  rfl

/-- Over any rounds, the injecting end hands back what `handBack` says, from the tap port and the
frames it starts with. -/
theorem consultAll_inject (c : Nat) (name : String) (rounds : List Round) :
    ∀ (tap : Option UInt16) (q : List (List UInt8)),
      (Session.consultAll (QueueBridge.variant .inject)
          ⟨{ capacity := c, frames := q }, { name, port := tap }⟩ rounds).2 =
        handBack name tap q rounds := by
  induction rounds with
  | nil => intro _ _; rfl
  | cons r rs ih =>
    intro tap q
    rw [Session.consultAll_cons, Round.consult_inject]
    rcases ha : r.answered with _ | _
    · rw [if_neg Bool.false_ne_true, handBack_skipped (.inl ha), ih]
    rcases ht : r.tapAfter name tap with _ | port
    · rw [if_pos rfl, QueueBridge.injectOpportunity_of_unknown rfl, handBack_skipped (.inr (.inl ht)),
        ht, ih]
    rcases q with _ | ⟨frame, rest⟩
    · rw [if_pos rfl, QueueBridge.injectOpportunity_of_empty rfl (FrameQueue.tryReceive_nil rfl rfl),
        handBack_skipped (.inr (.inr rfl)), ht, ih]
    · rw [if_pos rfl, QueueBridge.injectOpportunity_of_frame rfl (FrameQueue.tryReceive_cons rfl),
        handBack_taken ha ht, ih]

/-! ### The pair -/

/-- A queue pair of capacity `c` for the tap device `name`: the capturing session runs on a new
session's input `inputA`, then the injecting session on `inputB` from the bridge the first left.

The capturing session writes exactly what the learning switch writes, and leaves in the queue the
first `c` frames its rounds captured. The injecting session writes what the learning switch
writes, round by round, each round followed by the packet-out of the frame it took. A round that
answered a packet-in wrote just the answer to it; if the tap port is known it takes the oldest
queued frame, and the packet-out right after the answer sends that frame through the tap port,
unless the frame is longer than 65511 bytes and is lost.
The frames taken are the first ones captured, in order and each once: as many as were queued or
as rounds answered a packet-in with the tap port known, whichever is fewer. -/
theorem queue_pair_moves_captured_frames (c : Nat) (name : String) (inputA inputB : List UInt8) :
    let capturing := (Session.run (QueueBridge.variant .capture)).run.run
      ({ link := { pending := inputA } }, QueueBridge.pair c name)
    let queued := (capturedFrames (Session.learningRounds inputA)).take c
    let injecting := (Session.run (QueueBridge.variant .inject)).run.run
      ({ link := { pending := inputB } }, capturing.2.2)
    let taken := handBack name none queued (Session.learningRounds inputB)
    capturing.2.2 = ⟨{ capacity := c, frames := queued }, { name }⟩ ∧
    capturing.2.1.link.sentRev.reverse = Session.greeted.link.sentRev.reverse ++
      ((Session.learningRounds inputA).map Round.writes).flatten ∧
    injecting.2.1.link.sentRev.reverse = Session.greeted.link.sentRev.reverse ++
      (List.zipWith Round.output (Session.learningRounds inputB) taken).flatten ∧
    (∀ r ∈ Session.learningRounds inputB, r.answered = true →
      ∃ p flow? bytes, Message.parse r.header r.body = .ok (.packetIn p) ∧
        Session.flowOf? r.header.xid p = .ok flow? ∧
        Message.encode r.session.version r.header.xid
          (Session.answer (Session.learnFrom r.session.table flow?) p flow?) = .ok bytes ∧
        r.writes = [bytes]) ∧
    injections taken = (capturedFrames (Session.learningRounds inputA)).take
      (min c (tappedAnswers name none (Session.learningRounds inputB))) ∧
    ∀ v inj, injectionWrites v (some inj) = [] ↔ 65511 < inj.frame.length := by
  intro capturing queued injecting taken
  have hcapture : Session.consultAll (QueueBridge.variant .capture) (QueueBridge.pair c name)
      (Session.learningRounds inputA) = (⟨{ capacity := c, frames := queued }, { name }⟩,
        List.replicate (Session.learningRounds inputA).length none) := by
    have := consultAll_capture c { name } (Session.learningRounds inputA) []
    simp only [List.take_nil, List.nil_append] at this
    exact this
  obtain ⟨hbridgeA, hsentA⟩ :=
    Session.run_consults (QueueBridge.variant .capture) inputA (QueueBridge.pair c name)
  rw [hcapture] at hbridgeA hsentA
  rw [zipWith_output_unanswered] at hsentA
  have htaken : (Session.consultAll (QueueBridge.variant .inject) capturing.2.2
      (Session.learningRounds inputB)).2 = taken := by
    rw [show capturing.2.2 = ⟨{ capacity := c, frames := queued }, { name }⟩ from hbridgeA]
    exact consultAll_inject c name _ none queued
  obtain ⟨-, hsentB⟩ := Session.run_consults (QueueBridge.variant .inject) inputB capturing.2.2
  rw [htaken] at hsentB
  refine ⟨hbridgeA, hsentA, hsentB, fun _ hr => Session.learningRounds_answered hr, ?_,
    injectionWrites_eq_nil_iff⟩
  rw [injections_handBack, List.take_take, Nat.min_comm]

/-! ### A frame too long to hand back -/

namespace Session

/-- The injecting end of a queue pair that knows its tap port is port 1 and has `longRarp`, a
frame of 65512 bytes, as its one queued frame. -/
def longRarpQueued : QueueBridge :=
  ⟨{ capacity := 2, frames := [longRarp] }, { name := "tap0", port := some 1 }⟩

theorem encode_longRarp_injection (v : UInt8) (port : UInt16) :
    Message.encode v 0 (Injection.message ⟨port, longRarp⟩) =
      .error (.malformed "message" "65536 bytes exceeds the length field") := by
  have hlength : longRarp.length = 65512 := by
    rw [longRarp, List.length_append, List.length_replicate]
    rfl
  rw [Message.encode_eq, Injection.message_size, show (⟨port, longRarp⟩ : Injection).frame.length =
    65512 from hlength]
  rfl

/-- A captured frame of 65512 bytes is lost. The injecting end, with its tap port known and that
frame queued, is in the session reached by a features reply when an ARP reply comes in: the
session answers it, and the end takes the frame; its packet-out is a byte too long for the length
field, so the session has written the answer alone, fails with the encoder's refusal, and the
queue is left empty. -/
theorem overlong_capture_lost :
    ∃ s, (dispatch (QueueBridge.variant .inject) ⟨1, 10, 60, 3⟩ arpReplyIn.encode).run.run
        (afterFeatures, longRarpQueued) =
      (.error (.malformed "message" "65536 bytes exceeds the length field"),
        (s, ⟨{ capacity := 2 }, { name := "tap0", port := some 1 }⟩)) ∧
      ∃ answerBytes, s.link.sentRev = answerBytes :: afterFeatures.link.sentRev := by
  have hparse : Message.parse ⟨1, 10, 60, 3⟩ arpReplyIn.encode =
      .ok (.packetIn arpReplyIn) := rfl
  obtain ⟨flow?, bytes, hflow, hcode⟩ : ∃ flow? bytes, flowOf? 3 arpReplyIn = .ok flow? ∧
      Message.encode afterFeatures.version 3
        (answer (learnFrom afterFeatures.table flow?) arpReplyIn flow?) =
          .ok bytes := ⟨_, _, rfl, rfl⟩
  obtain ⟨j, hrun⟩ := packetIn_run_of_ok (QueueBridge.variant .inject) 3 arpReplyIn
    hflow afterFeatures longRarpQueued
  have hopportunity : (QueueBridge.variant .inject).injectOpportunity
      (captured (QueueBridge.variant .inject) arpReplyIn longRarpQueued) =
        (⟨{ capacity := 2 }, { name := "tap0", port := some 1 }⟩, [], some ⟨1, longRarp⟩) := rfl
  obtain ⟨j', hinject⟩ := run_inject_some (QueueBridge.variant .inject)
    { afterFeatures with
      table := learnFrom afterFeatures.table flow?
      journal := ⟨.trace, "Write " ++ (answer (learnFrom afterFeatures.table
        flow?) arpReplyIn flow?).code.name ++ ":\n" ++ Text.hexDump bytes⟩ :: j
      link := afterFeatures.link.write bytes }
    (captured (QueueBridge.variant .inject) arpReplyIn longRarpQueued)
    (show _ = some ⟨1, longRarp⟩ by rw [hopportunity])
  have hcode' : Message.encode
      { afterFeatures with table := learnFrom afterFeatures.table flow?, journal := j }.version 3
        (answer (learnFrom afterFeatures.table flow?) arpReplyIn flow?) = .ok bytes := hcode
  rw [dispatch_run_packetIn _ afterFeatures longRarpQueued hparse rfl, hrun,
    run_send_bind_ok _ hcode' rfl, hinject, run_send, encode_longRarp_injection, hopportunity]
  exact ⟨_, rfl, bytes, rfl⟩

end Session

end OpenFlow
