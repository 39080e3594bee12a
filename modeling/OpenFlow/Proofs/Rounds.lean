import OpenFlow.Proofs.Answer
import OpenFlow.Proofs.BridgeLaw

/-!
# A session's variant, consulted round by round

A session consults its variant at three points, and nothing it does depends on what the variant
answers but the injection it hands back. A run with any variant is therefore the run of the
learning switch alone (`Variant.plain`) with the variant consulted beside it.

`Session.rounds` gives the rounds of the learning switch handling messages one after another:
each message with the session that handled it and the messages it wrote (`Round`). A round
consults the variant in the order a session does (`Round.consult`): with a features reply read
after the greeting, with the frame of a packet-in sent on purpose that an established session
reads, and, once a packet-in was answered, for an injection. The step is `Session.dispatch_follows`:
handling a message with any variant ends the run exactly when the learning switch's handling
does, leaves the same session but for its log and what it wrote, and writes what the learning
switch writes followed by the injection handed back (`injectionWrites`).

The main statement is `Session.run_consults`: on a new session, the run with any variant leaves
the variant's state as the rounds' consultations do, and writes what the learning switch writes,
round by round, each round followed by the packet-out of the injection the variant handed back
in it, unless that packet-out is too long to write. A round that answered a packet-in wrote the
answer alone (`Session.learningRounds_answered`), so an injection follows the answer it came with.
-/

namespace OpenFlow

/-- The packet-out an injection is sent as: its frame held in no buffer, with no in-port, and the
one action of sending it out of the injection's port. -/
def Injection.message (inj : Injection) : Message :=
  .packetOut ⟨.notBuffered inj.frame, none, [.output (.physical inj.port)]⟩

/-- What an injection handed back adds to the messages a session writes in version `v`: its
packet-out under transaction id 0, or nothing when the encoder refuses it. -/
def injectionWrites (v : UInt8) : Option Injection → List (List UInt8)
  | none => []
  | some inj =>
    match Message.encode v 0 inj.message with
    | .ok bytes => [bytes]
    | .error _ => []

/-- Whether the outcome of handling a message ends the run: a fatal error. -/
def endsRun : Except WireError Unit → Bool
  | .ok () => false
  | .error e => e.isFatal

namespace Session

variable {σ : Type}

/-! ### Sessions apart from what they wrote -/

/-- The session `t` with the log `journal` and the written messages `sent`, newest first. -/
def withWrites (t : Session) (journal : List LogLine) (sent : List (List UInt8)) : Session :=
  { t with journal := journal, link := { t.link with sentRev := sent } }

@[simp] theorem withWrites_version (t : Session) (journal : List LogLine)
    (sent : List (List UInt8)) : (t.withWrites journal sent).version = t.version := rfl

@[simp] theorem withWrites_link_sentRev (t : Session) (journal : List LogLine)
    (sent : List (List UInt8)) : (t.withWrites journal sent).link.sentRev = sent := rfl

theorem withWrites_self (s : Session) : s.withWrites s.journal s.link.sentRev = s := by
  obtain ⟨_, _, _, _, ⟨_, _, _⟩, _⟩ := s
  rfl

/-- The messages written between a session and a later one, oldest first. -/
def newWrites (s s' : Session) : List (List UInt8) :=
  (s'.link.sentRev.take (s'.link.sentRev.length - s.link.sentRev.length)).reverse

theorem newWrites_eq {s s' : Session} {sent : List (List UInt8)}
    (h : s'.link.sentRev = sent ++ s.link.sentRev) : newWrites s s' = sent.reverse := by
  rw [newWrites, h, List.length_append, Nat.add_sub_cancel, List.take_left' rfl]

/-- The learning switch alone handling a message in the session `t`: the outcome, and the
session it leaves. -/
def learningStep (t : Session) (h : Header) (body : List UInt8) :
    Except WireError Unit × Session :=
  (((dispatch (Variant.plain : Variant Unit) h body).run.run (t, ())).1,
    ((dispatch (Variant.plain : Variant Unit) h body).run.run (t, ())).2.1)

end Session

/-- One message a run handled: its header and body, the session that handled it, and the
messages written while handling it, oldest first. -/
structure Round where
  header : Header
  body : List UInt8
  session : Session
  writes : List (List UInt8)

namespace Round

variable {σ : Type}

/-- The features reply the round hands to the variant: one read after the greeting. -/
def reply? (r : Round) : Option SwitchFeatures :=
  match Message.parse r.header r.body with
  | .ok (.featuresReply f) => if r.session.state = .connecting then none else some f
  | _ => none

/-- The frame the round hands to the variant as one the switch sent on purpose: that of a
packet-in sent on purpose that an established session reads without a truncation. -/
def capture? (r : Round) : Option (List UInt8) :=
  match Message.parse r.header r.body with
  | .ok (.packetIn p) =>
    match Session.flowOf? r.header.xid p with
    | .ok _ =>
      if r.session.state = .established ∧ p.reason = .explicitSend then some p.payload.data
      else none
    | .error _ => none
  | _ => none

/-- The packet-in the round handled, if it handled one. -/
def packetIn? (r : Round) : Option PacketIn :=
  match Message.parse r.header r.body with
  | .ok (.packetIn p) => some p
  | _ => none

/-- Whether the round answered a packet-in: then the variant gets its chance to inject. -/
def answered (r : Round) : Bool :=
  r.packetIn?.isSome && !r.writes.isEmpty

/-- The variant's state after the round consults it, in the order a session does, and the
injection it hands back. -/
def consult (r : Round) (v : Variant σ) (w : σ) : σ × Option Injection :=
  let w₁ := r.reply?.elim w fun f => (v.featuresKnown f w).1
  let w₂ := r.capture?.elim w₁ fun frame => (v.capture frame w₁).1
  if r.answered then ((v.injectOpportunity w₂).1, (v.injectOpportunity w₂).2.2) else (w₂, none)

theorem answered_of_writes_nil {r : Round} (h : r.writes = []) : r.answered = false := by
  simp only [answered, h, List.isEmpty_nil, Bool.not_true, Bool.and_false]

theorem consult_of_quiet {r : Round} (v : Variant σ) (w : σ) (hreply : r.reply? = none)
    (hcapture : r.capture? = none) (hanswered : r.answered = false) : r.consult v w = (w, none) := by
  simp only [consult, hreply, hcapture, hanswered, Option.elim_none, Bool.false_eq_true, if_false]

/-- A round without a features reply hands the variant its frame, if any, and then consults it
for an injection if it answered a packet-in. -/
theorem consult_of_no_reply {r : Round} (v : Variant σ) (w : σ) (hreply : r.reply? = none) :
    r.consult v w =
      if r.answered then
        ((v.injectOpportunity (r.capture?.elim w fun frame => (v.capture frame w).1)).1,
          (v.injectOpportunity (r.capture?.elim w fun frame => (v.capture frame w).1)).2.2)
      else (r.capture?.elim w fun frame => (v.capture frame w).1, none) := by
  simp only [consult, hreply, Option.elim_none]

/-- The messages the round writes, oldest first, when the variant hands back `o`: what the
learning switch writes, and then the injection's packet-out. -/
def output (r : Round) (o : Option Injection) : List (List UInt8) :=
  r.writes ++ injectionWrites r.session.version o

end Round

namespace Session

variable {σ : Type}

/-- The round in which the learning switch, in the session `t`, handles a message. -/
def round (t : Session) (h : Header) (body : List UInt8) : Round :=
  ⟨h, body, t, newWrites t (learningStep t h body).2⟩

theorem round_session (t : Session) (h : Header) (body : List UInt8) :
    (round t h body).session = t :=
  rfl

/-- The rounds of the learning switch handling messages one after another from the session `t`,
as `dispatchAll` does: up to and including the first message whose handling ends the run. -/
def rounds : List (Header × List UInt8) → Session → List Round
  | [], _ => []
  | (h, body) :: msgs, t =>
    round t h body ::
      if endsRun (learningStep t h body).1 then [] else rounds msgs (learningStep t h body).2

/-- The variant's state after it is consulted round after round, and the injection it hands back
in each round. -/
def consultAll (v : Variant σ) : σ → List Round → σ × List (Option Injection) :=
  runSteps fun w r => r.consult v w

/-! ### One message -/

@[simp] theorem withWrites_link_writeFails (t : Session) (journal : List LogLine)
    (sent : List (List UInt8)) : (t.withWrites journal sent).link.writeFails = t.link.writeFails :=
  rfl

/-- Handling a message with the variant `v`, from the session `t` with its own log and the
written messages `sent`, follows the learning switch's handling of it from `t`. Its outcome ends
the run exactly when the learning switch's does, and it leaves the session the learning switch
leaves, with a log of its own, with what it wrote before, what the learning switch writes and
the injection handed back, and with the variant's state as the round consults it. -/
def Follows (v : Variant σ) (w : σ) (t : Session) (sent : List (List UInt8)) (h : Header)
    (body : List UInt8) (r : Except WireError Unit × (Session × σ)) : Prop :=
  endsRun r.1 = endsRun (learningStep t h body).1 ∧
    ∃ j, r.2 = ((learningStep t h body).2.withWrites j
      ((injectionWrites t.version ((round t h body).consult v w).2).reverse ++
        ((round t h body).writes.reverse ++ sent)), ((round t h body).consult v w).1)

section Follows

variable {v : Variant σ} {w : σ} {t : Session} {sent : List (List UInt8)} {h : Header}
  {body : List UInt8}

/-- A handler that hands nothing back follows the learning switch when it ends as that does
and writes what that writes. -/
theorem Follows.of_alike {r : Except WireError Unit × (Session × σ)} {w' : σ}
    (hc : (round t h body).consult v w = (w', none)) (hres : r.1 = (learningStep t h body).1)
    (hr : ∃ j new, (learningStep t h body).2.link.sentRev = new ++ t.link.sentRev ∧
      r.2 = ((learningStep t h body).2.withWrites j (new ++ sent), w')) :
    Follows v w t sent h body r := by
  obtain ⟨j, new, hnew, hr⟩ := hr
  have hwrites : (round t h body).writes = new.reverse := newWrites_eq hnew
  refine ⟨by rw [hres], j, ?_⟩
  rw [hr, hc, hwrites, List.reverse_reverse]
  rfl

end Follows

/-! ### Writes and the injection -/

/-- A write goes alike whatever else the session wrote before and whatever its variant's
state: it fails or writes the same bytes. -/
theorem send_alike (w : σ) (t : Session) (journal : List LogLine) (sent : List (List UInt8))
    (x : UInt32) (m : Message) :
    ∃ j new, ((send x m : SessionM Unit Unit).run.run (t, ())).2.1.link.sentRev =
        new ++ t.link.sentRev ∧
      (send x m).run.run (t.withWrites journal sent, w) =
        (((send x m : SessionM Unit Unit).run.run (t, ())).1,
          (((send x m : SessionM Unit Unit).run.run (t, ())).2.1.withWrites j (new ++ sent), w)) := by
  simp only [run_send, withWrites_version, withWrites_link_writeFails]
  rcases Message.encode t.version x m with e | bytes
  · exact ⟨journal, [], rfl, rfl⟩
  dsimp only
  by_cases hfails : t.link.writeFails = true
  · simp only [hfails]
    exact ⟨_, [], rfl, rfl⟩
  · simp only [hfails]
    exact ⟨_, [bytes], rfl, rfl⟩

theorem run_send_bind_fails {α : Type} {xid : UInt32} {m : Message} {k : Unit → SessionM σ α}
    {s : Session} (w : σ) {bytes : List UInt8} (hencode : Message.encode s.version xid m = .ok bytes)
    (hfails : s.link.writeFails = true) :
    (send xid m >>= k).run.run (s, w) = (.error (.transportFailure .brokenPipe), ({ s with
      journal := ⟨.trace, "Write " ++ m.code.name ++ ":\n" ++ Text.hexDump bytes⟩ :: s.journal }, w)) := by
  have hsend := run_send (σ := σ) xid m s w
  rw [hencode] at hsend
  simp only [hfails, if_true] at hsend
  exact run_bind_error hsend

theorem run_inject_none (v : Variant σ) (s : Session) (w : σ)
    (h : (v.injectOpportunity w).2.2 = none) :
    (inject v).run.run (s, w) = (.ok (), ({ s with journal :=
      (v.injectOpportunity w).2.1.reverse ++ s.journal }, (v.injectOpportunity w).1)) := by
  simp only [inject, run_hook_bind, h]
  rfl

theorem run_inject_some (v : Variant σ) (s : Session) (w : σ) {inj : Injection}
    (h : (v.injectOpportunity w).2.2 = some inj) :
    ∃ j, (inject v).run.run (s, w) =
      (send 0 inj.message).run.run ({ s with journal := j }, (v.injectOpportunity w).1) := by
  simp only [inject, run_hook_bind, h, run_log_bind]
  exact ⟨_, rfl⟩

/-- On a working link, the variant's chance to inject writes the packet-out of the injection it
hands back, unless the encoder refuses it; either way the run goes on. -/
theorem inject_writes (v : Variant σ) (w : σ) (t : Session) (journal : List LogLine)
    (sent : List (List UInt8)) (hworks : t.link.writeFails = false) :
    ∃ res j, (inject v).run.run (t.withWrites journal sent, w) =
      (res, (t.withWrites j ((injectionWrites t.version (v.injectOpportunity w).2.2).reverse ++
        sent), (v.injectOpportunity w).1)) ∧ endsRun res = false := by
  rcases hinj : (v.injectOpportunity w).2.2 with _ | inj
  · exact ⟨.ok (), _, by rw [run_inject_none v _ w hinj]; rfl, rfl⟩
  obtain ⟨j, hrun⟩ := run_inject_some v (t.withWrites journal sent) w hinj
  rw [hrun, run_send]
  simp only [withWrites_version, withWrites_link_writeFails, hworks]
  rcases hcode : Message.encode t.version 0 inj.message with e | bytes
  · refine ⟨.error e, j, ?_, (Message.encode_error_isWriteRefusal hcode).not_fatal⟩
    simp only [injectionWrites, hcode, List.reverse_nil, List.nil_append]
    rfl
  · refine ⟨.ok (), ⟨.trace, "Write " ++ inj.message.code.name ++ ":\n" ++ Text.hexDump bytes⟩ :: j,
      ?_, rfl⟩
    simp only [injectionWrites, hcode, Bool.false_eq_true, ↓reduceIte]
    rfl

/-- When the answer to a packet-in cannot be written, its handler fails at it alike with every
variant, having written nothing, and the variant gets no chance to inject. -/
theorem answer_refused (v : Variant σ) (w : σ) (t₁ : Session) (journal : List LogLine)
    (sent : List (List UInt8)) (x : UInt32) (A : Message)
    (hrefused : ∀ bytes, Message.encode t₁.version x A = .ok bytes → t₁.link.writeFails = true) :
    ∃ j, ((send x A >>= fun _ => inject (Variant.plain : Variant Unit)).run.run
          (t₁, ())).2.1.link.sentRev = t₁.link.sentRev ∧
      (send x A >>= fun _ => inject v).run.run (t₁.withWrites journal sent, w) =
        (((send x A >>= fun _ => inject (Variant.plain : Variant Unit)).run.run (t₁, ())).1,
          (((send x A >>= fun _ => inject (Variant.plain : Variant Unit)).run.run
            (t₁, ())).2.1.withWrites j sent, w)) := by
  rcases hcode : Message.encode t₁.version x A with e | bytes
  · have hcode' : Message.encode (t₁.withWrites journal sent).version x A = .error e := hcode
    rw [run_send_bind_error () hcode, run_send_bind_error w hcode']
    exact ⟨journal, rfl, rfl⟩
  · have hfails := hrefused bytes hcode
    have hcode' : Message.encode (t₁.withWrites journal sent).version x A = .ok bytes := hcode
    rw [run_send_bind_fails () hcode hfails, run_send_bind_fails w hcode' hfails]
    exact ⟨_, rfl, rfl⟩

/-- When the answer to a packet-in is written, the variant is consulted for an injection, whose
packet-out follows the answer unless the encoder refuses it; the run goes on either way. -/
theorem answer_written (v : Variant σ) (w : σ) (t₁ : Session) (journal : List LogLine)
    (sent : List (List UInt8)) (x : UInt32) (A : Message) {bytes : List UInt8}
    (hcode : Message.encode t₁.version x A = .ok bytes) (hworks : t₁.link.writeFails = false) :
    ((send x A >>= fun _ => inject (Variant.plain : Variant Unit)).run.run (t₁, ())).1 = .ok () ∧
      ((send x A >>= fun _ => inject (Variant.plain : Variant Unit)).run.run
        (t₁, ())).2.1.link.sentRev = bytes :: t₁.link.sentRev ∧
      ∃ res j, (send x A >>= fun _ => inject v).run.run (t₁.withWrites journal sent, w) =
        (res, (((send x A >>= fun _ => inject (Variant.plain : Variant Unit)).run.run
          (t₁, ())).2.1.withWrites j
            ((injectionWrites t₁.version (v.injectOpportunity w).2.2).reverse ++ bytes :: sent),
          (v.injectOpportunity w).1)) ∧ endsRun res = false := by
  have hcode' : Message.encode (t₁.withWrites journal sent).version x A = .ok bytes := hcode
  have hplain : (send x A >>= fun _ => inject (Variant.plain : Variant Unit)).run.run (t₁, ()) = _ :=
    run_send_bind_ok () hcode hworks
  rw [run_inject_none _ _ () rfl] at hplain
  rw [hplain, run_send_bind_ok w hcode' hworks]
  obtain ⟨res, j, hinj, hres⟩ := inject_writes v w
    { t₁ with
      journal := ⟨.trace, "Write " ++ A.code.name ++ ":\n" ++ Text.hexDump bytes⟩ :: t₁.journal
      link := t₁.link.write bytes }
    (⟨.trace, "Write " ++ A.code.name ++ ":\n" ++ Text.hexDump bytes⟩ :: journal) (bytes :: sent)
    hworks
  exact ⟨rfl, rfl, res, j, hinj, hres⟩

/-! ### Each type of message -/

section Cases

variable (v : Variant σ) (w : σ) (t : Session) (journal : List LogLine) (sent : List (List UInt8))
  {h : Header} {body : List UInt8}

/-- A round that wrote nothing answered nothing. -/
theorem round_writes_nil {r : Except WireError Unit} {t' : Session}
    (hstep : learningStep t h body = (r, t')) (hsent : t'.link.sentRev = t.link.sentRev) :
    (round t h body).writes = [] := by
  have hnil : (learningStep t h body).2.link.sentRev = [] ++ t.link.sentRev := by rw [hstep]; exact hsent
  exact newWrites_eq hnil

theorem follows_of_parse_error {e : WireError} (hparse : Message.parse h body = .error e) :
    Follows v w t sent h body ((dispatch v h body).run.run (t.withWrites journal sent, w)) := by
  have hstep : learningStep t h body = (.error e, t) := by
    rw [learningStep, dispatch_run_of_parse_error _ h body hparse]
  refine Follows.of_alike (Round.consult_of_quiet v w ?_ ?_ ?_) ?_ ⟨journal, [], ?_, ?_⟩
  · simp only [Round.reply?, round, hparse]
  · simp only [Round.capture?, round, hparse]
  · exact Round.answered_of_writes_nil (round_writes_nil t hstep rfl)
  · rw [dispatch_run_of_parse_error v h body hparse, hstep]
  · rw [hstep]
    rfl
  · rw [dispatch_run_of_parse_error v h body hparse, hstep]
    rfl

theorem follows_of_errorReport {e : ErrorMsg} (hparse : Message.parse h body = .ok (.error e)) :
    Follows v w t sent h body ((dispatch v h body).run.run (t.withWrites journal sent, w)) := by
  have hstep : learningStep t h body =
      (.error (.protocolViolation ("switch reported " ++ e.text)), t) := by
    rw [learningStep, dispatch_run_of_errorReport _ h body hparse]
  refine Follows.of_alike (Round.consult_of_quiet v w ?_ ?_ ?_) ?_ ⟨journal, [], ?_, ?_⟩
  · simp only [Round.reply?, round, hparse]
  · simp only [Round.capture?, round, hparse]
  · exact Round.answered_of_writes_nil (round_writes_nil t hstep rfl)
  · rw [dispatch_run_of_errorReport v h body hparse, hstep]
  · rw [hstep]
    rfl
  · rw [dispatch_run_of_errorReport v h body hparse, hstep]
    rfl

theorem follows_of_hello (hparse : Message.parse h body = .ok .hello) :
    Follows v w t sent h body ((dispatch v h body).run.run (t.withWrites journal sent, w)) := by
  obtain ⟨j, hrun⟩ := dispatch_run_hello v (t.withWrites journal sent) w hparse
  obtain ⟨j', hplain⟩ := dispatch_run_hello (Variant.plain : Variant Unit) t () hparse
  have hstep : learningStep t h body = (.ok (), { t with
      version := if h.version < t.version then h.version else t.version, journal := j' }) := by
    rw [learningStep, hplain]
  refine Follows.of_alike (Round.consult_of_quiet v w ?_ ?_ ?_) ?_ ⟨j, [], ?_, ?_⟩
  · simp only [Round.reply?, round, hparse]
  · simp only [Round.capture?, round, hparse]
  · exact Round.answered_of_writes_nil (round_writes_nil t hstep rfl)
  · rw [hrun, hstep]
  · rw [hstep]
    rfl
  · rw [hrun, hstep]
    rfl

theorem follows_of_echoRequest {d : List UInt8}
    (hparse : Message.parse h body = .ok (.echoRequest d)) :
    Follows v w t sent h body ((dispatch v h body).run.run (t.withWrites journal sent, w)) := by
  obtain ⟨j, new, hnew, hrun⟩ := send_alike w t journal sent h.xid (.echoReply d)
  have hstep : learningStep t h body =
      (((send h.xid (.echoReply d) : SessionM Unit Unit).run.run (t, ())).1,
        ((send h.xid (.echoReply d) : SessionM Unit Unit).run.run (t, ())).2.1) := by
    rw [learningStep, dispatch_run_echoRequest _ t () hparse]
  refine Follows.of_alike (Round.consult_of_quiet v w ?_ ?_ ?_) ?_ ⟨j, new, ?_, ?_⟩
  · simp only [Round.reply?, round, hparse]
  · simp only [Round.capture?, round, hparse]
  · simp only [Round.answered, Round.packetIn?, round, hparse, Option.isSome_none,
      Bool.false_and]
  · rw [dispatch_run_echoRequest v _ w hparse, hrun, hstep]
  · rw [hstep]
    exact hnew
  · rw [dispatch_run_echoRequest v _ w hparse, hrun, hstep]

/-- A features reply is handed to the variant once the session greeted the switch. -/
theorem follows_of_featuresReply {f : SwitchFeatures}
    (hparse : Message.parse h body = .ok (.featuresReply f)) :
    Follows v w t sent h body ((dispatch v h body).run.run (t.withWrites journal sent, w)) := by
  by_cases hs : t.state = .connecting
  · have hstep : learningStep t h body = (.ok (), { t with journal :=
        ⟨.warn, "Features reply before features request, dropped"⟩ :: t.journal }) := by
      rw [learningStep, dispatch_run_featuresReply_early _ t () hparse hs]
    refine Follows.of_alike (Round.consult_of_quiet v w ?_ ?_ ?_) ?_
      ⟨⟨.warn, "Features reply before features request, dropped"⟩ :: journal, [], ?_, ?_⟩
    · simp only [Round.reply?, round, hparse, hs, if_true]
    · simp only [Round.capture?, round, hparse]
    · exact Round.answered_of_writes_nil (round_writes_nil t hstep rfl)
    · rw [dispatch_run_featuresReply_early v (t.withWrites journal sent) w hparse hs, hstep]
    · rw [hstep]
      rfl
    · rw [dispatch_run_featuresReply_early v (t.withWrites journal sent) w hparse hs, hstep]
      rfl
  · obtain ⟨j, hrun⟩ := dispatch_run_featuresReply v (t.withWrites journal sent) w hparse hs
    obtain ⟨j', hplain⟩ := dispatch_run_featuresReply (Variant.plain : Variant Unit) t () hparse hs
    have hstep : learningStep t h body =
        (.ok (), { t with features := some f, state := .established, journal := j' }) := by
      rw [learningStep, hplain]
    have hc : (round t h body).consult v w = ((v.featuresKnown f w).1, none) := by
      have hreply : (round t h body).reply? = some f := by
        simp only [Round.reply?, round, hparse, hs, if_false]
      have hcapture : (round t h body).capture? = none := by
        simp only [Round.capture?, round, hparse]
      simp only [Round.consult, hreply, hcapture, Option.elim_some, Option.elim_none,
        Round.answered_of_writes_nil (round_writes_nil t hstep rfl), Bool.false_eq_true, if_false]
    refine Follows.of_alike hc ?_ ⟨j, [], ?_, ?_⟩
    · rw [hrun, hstep]
    · rw [hstep]
      rfl
    · rw [hrun, hstep]
      rfl

theorem follows_of_not_handled {m : Message} (hparse : Message.parse h body = .ok m)
    (hm : m.isHandled = false) :
    Follows v w t sent h body ((dispatch v h body).run.run (t.withWrites journal sent, w)) := by
  have hstep : learningStep t h body =
      (.ok (), { t with journal := ⟨.debug, "Ignoring " ++ m.code.name⟩ :: t.journal }) := by
    rw [learningStep, dispatch_run_of_not_handled _ t () hparse hm]
  have hreply : (round t h body).reply? = none := by
    simp only [Round.reply?, round, hparse]
    cases m <;> first | rfl | cases hm
  have hcapture : (round t h body).capture? = none := by
    simp only [Round.capture?, round, hparse]
    cases m <;> first | rfl | cases hm
  refine Follows.of_alike (Round.consult_of_quiet v w hreply hcapture
      (Round.answered_of_writes_nil (round_writes_nil t hstep rfl))) ?_
    ⟨⟨.debug, "Ignoring " ++ m.code.name⟩ :: journal, [], ?_, ?_⟩
  · rw [dispatch_run_of_not_handled v (t.withWrites journal sent) w hparse hm, hstep]
  · rw [hstep]
    rfl
  · rw [dispatch_run_of_not_handled v (t.withWrites journal sent) w hparse hm, hstep]
    rfl

/-- A packet-in whose frame cannot be read is refused alike, once the features are known. -/
theorem follows_of_unreadable {p : PacketIn} {e : WireError}
    (hparse : Message.parse h body = .ok (.packetIn p)) (hs : t.state = .established)
    (hflow : flowOf? h.xid p = .error e) :
    Follows v w t sent h body ((dispatch v h body).run.run (t.withWrites journal sent, w)) := by
  have hrun : ∀ {τ : Type} (u : Variant τ) (s : Session) (x : τ), s.state = .established →
      (dispatch u h body).run.run (s, x) = (.error e, (s, x)) := fun u s x hs' => by
    rw [dispatch_run_packetIn u s x hparse hs', packetIn_run_of_error u h.xid p hflow s x]
  have hstep : learningStep t h body = (.error e, t) := by
    rw [learningStep, hrun _ t () hs]
  refine Follows.of_alike (Round.consult_of_quiet v w ?_ ?_
      (Round.answered_of_writes_nil (round_writes_nil t hstep rfl))) ?_ ⟨journal, [], ?_, ?_⟩
  · simp only [Round.reply?, round, hparse]
  · simp only [Round.capture?, round, hparse, hflow]
  · rw [hrun v (t.withWrites journal sent) w hs, hstep]
  · rw [hstep]
    rfl
  · rw [hrun v (t.withWrites journal sent) w hs, hstep]
    rfl

/-- The learning switch handling a packet-in whose frame it reads, once the features are known:
it learns, then writes its answer and is consulted for an injection. -/
theorem learningStep_readable {p : PacketIn} {flow? : Option Flow}
    (hparse : Message.parse h body = .ok (.packetIn p)) (hs : t.state = .established)
    (hflow : flowOf? h.xid p = .ok flow?) :
    ∃ j, learningStep t h body =
      (((send h.xid (answer (learnFrom t.table flow?) p flow?) >>= fun _ =>
          inject (Variant.plain : Variant Unit)).run.run
            ({ t with table := learnFrom t.table flow?, journal := j }, ())).1,
        ((send h.xid (answer (learnFrom t.table flow?) p flow?) >>= fun _ =>
          inject (Variant.plain : Variant Unit)).run.run
            ({ t with table := learnFrom t.table flow?, journal := j }, ())).2.1) := by
  obtain ⟨j, hplain⟩ := packetIn_run_of_ok (Variant.plain : Variant Unit) h.xid p hflow t ()
  refine ⟨j, ?_⟩
  rw [learningStep, dispatch_run_packetIn _ t () hparse hs, hplain]

/-- A round of a packet-in whose frame is read, once the features are known, wrote the answer
when it is encoded and the link takes it. -/
theorem round_writes_answer_written {p : PacketIn} {flow? : Option Flow} {bytes : List UInt8}
    (hparse : Message.parse h body = .ok (.packetIn p)) (hs : t.state = .established)
    (hflow : flowOf? h.xid p = .ok flow?)
    (hcode : Message.encode t.version h.xid (answer (learnFrom t.table flow?) p flow?) = .ok bytes)
    (hworks : t.link.writeFails = false) :
    (round t h body).writes = [bytes] := by
  obtain ⟨j, hstep⟩ := learningStep_readable t hparse hs hflow
  obtain ⟨-, hsent, -⟩ := answer_written (Variant.plain : Variant Unit) ()
    { t with table := learnFrom t.table flow?, journal := j } j [] h.xid _ hcode hworks
  have hsent' : (learningStep t h body).2.link.sentRev = [bytes] ++ t.link.sentRev := by
    rw [hstep, hsent]
    rfl
  exact newWrites_eq hsent'

/-- Otherwise it wrote nothing. -/
theorem round_writes_answer_refused {p : PacketIn} {flow? : Option Flow}
    (hparse : Message.parse h body = .ok (.packetIn p)) (hs : t.state = .established)
    (hflow : flowOf? h.xid p = .ok flow?)
    (hwritten : ¬ ∃ bytes, Message.encode t.version h.xid
      (answer (learnFrom t.table flow?) p flow?) = .ok bytes ∧ t.link.writeFails = false) :
    (round t h body).writes = [] := by
  obtain ⟨j, hstep⟩ := learningStep_readable t hparse hs hflow
  obtain ⟨-, hsent, -⟩ := answer_refused (Variant.plain : Variant Unit) ()
    { t with table := learnFrom t.table flow?, journal := j } j [] h.xid _
    fun bytes hcode => by
      cases hfails : t.link.writeFails
      · exact absurd ⟨bytes, hcode, hfails⟩ hwritten
      · rfl
  exact round_writes_nil t hstep hsent

/-- A packet-in whose frame is read, once the features are known: the session learns and hands
the frame over when it was sent on purpose, alike with every variant; the answer is written
alike, and only when it was does the variant get its chance to inject. -/
theorem follows_of_readable {p : PacketIn} {flow? : Option Flow}
    (hparse : Message.parse h body = .ok (.packetIn p)) (hs : t.state = .established)
    (hflow : flowOf? h.xid p = .ok flow?) :
    Follows v w t sent h body ((dispatch v h body).run.run (t.withWrites journal sent, w)) := by
  obtain ⟨j, hrun⟩ := packetIn_run_of_ok v h.xid p hflow (t.withWrites journal sent) w
  obtain ⟨j', hstep⟩ := learningStep_readable t hparse hs hflow
  obtain ⟨t₁, ht₁⟩ : ∃ t₁ : Session, t₁ = { t with table := learnFrom t.table flow?, journal := j' } :=
    ⟨_, rfl⟩
  rw [← ht₁] at hstep
  generalize hA : answer (learnFrom t.table flow?) p flow? = A at hstep
  have hv : (dispatch v h body).run.run (t.withWrites journal sent, w) =
      (send h.xid A >>= fun _ => inject v).run.run (t₁.withWrites j sent, captured v p w) := by
    rw [dispatch_run_packetIn v (t.withWrites journal sent) w hparse hs, hrun, ht₁, ← hA]
    rfl
  have hversion : t₁.version = t.version := by rw [ht₁]
  have hlink : t₁.link = t.link := by rw [ht₁]
  have hcapture : ((round t h body).capture?.elim w fun frame => (v.capture frame w).1) =
      captured v p w := by
    simp only [Round.capture?, round, hparse, hflow, hs, true_and, captured]
    by_cases hr : p.reason = .explicitSend <;> simp [hr]
  have hconsult := Round.consult_of_no_reply v w
    (show (round t h body).reply? = none by simp only [Round.reply?, round, hparse])
  rw [hcapture] at hconsult
  rw [hv]
  by_cases hwritten : ∃ bytes, Message.encode t.version h.xid A = .ok bytes ∧
      t.link.writeFails = false
  · obtain ⟨bytes, hcode, hworks⟩ := hwritten
    have hwrites : (round t h body).writes = [bytes] :=
      round_writes_answer_written t hparse hs hflow (by rw [hA]; exact hcode) hworks
    rw [← hversion] at hcode
    rw [← hlink] at hworks
    obtain ⟨hok, -, res, j'', hr, hres⟩ :=
      answer_written v (captured v p w) t₁ j sent h.xid A hcode hworks
    have hanswered : (round t h body).answered = true := by
      rw [Round.answered, hwrites]
      simp only [Round.packetIn?, round, hparse, Option.isSome_some, List.isEmpty_cons,
        Bool.not_false, Bool.and_self]
    rw [hanswered, if_pos rfl] at hconsult
    refine ⟨by rw [hr, hstep, hok]; exact hres, j'', ?_⟩
    rw [hr, hconsult, hwrites, hstep, hversion]
    rfl
  · have hrefused : ∀ bytes, Message.encode t₁.version h.xid A = .ok bytes →
        t₁.link.writeFails = true := fun bytes hcode => by
      rw [hversion] at hcode
      rw [hlink]
      cases hfails : t.link.writeFails
      · exact absurd ⟨bytes, hcode, hfails⟩ hwritten
      · rfl
    obtain ⟨j'', hsent, hr⟩ := answer_refused v (captured v p w) t₁ j sent h.xid A hrefused
    have hnil : (round t h body).writes = [] :=
      round_writes_answer_refused t hparse hs hflow (by rw [hA]; exact hwritten)
    simp only [Round.answered_of_writes_nil hnil, Bool.false_eq_true, if_false] at hconsult
    refine Follows.of_alike hconsult (by rw [hr, hstep]) ⟨j'', [], ?_, ?_⟩
    · rw [hstep, hsent, hlink]
      rfl
    · rw [hr, hstep]
      rfl

theorem follows_of_packetIn {p : PacketIn} (hparse : Message.parse h body = .ok (.packetIn p)) :
    Follows v w t sent h body ((dispatch v h body).run.run (t.withWrites journal sent, w)) := by
  by_cases hs : t.state = .established
  · rcases hflow : flowOf? h.xid p with e | flow?
    · exact follows_of_unreadable v w t journal sent hparse hs hflow
    · exact follows_of_readable v w t journal sent hparse hs hflow
  have hstep : learningStep t h body = (.ok (), { t with journal :=
      ⟨.warn, "Packet-in before features reply, dropped"⟩ :: t.journal }) := by
    rw [learningStep, dispatch_run_packetIn_early _ t () hparse hs]
  have hcapture : (round t h body).capture? = none := by
    simp only [Round.capture?, round, hparse]
    rcases flowOf? h.xid p with e | flow? <;> simp [hs]
  refine Follows.of_alike (Round.consult_of_quiet v w
      (by simp only [Round.reply?, round, hparse]) hcapture
      (Round.answered_of_writes_nil (round_writes_nil t hstep rfl))) ?_
    ⟨⟨.warn, "Packet-in before features reply, dropped"⟩ :: journal, [], ?_, ?_⟩
  · rw [dispatch_run_packetIn_early v (t.withWrites journal sent) w hparse hs, hstep]
  · rw [hstep]
    rfl
  · rw [dispatch_run_packetIn_early v (t.withWrites journal sent) w hparse hs, hstep]
    rfl

/-- A round that answered a packet-in wrote one message: the learning switch's answer to it, in
the session's version under the packet-in's transaction id. -/
theorem round_writes_of_answered (hanswered : (round t h body).answered = true) :
    ∃ p flow? bytes, Message.parse h body = .ok (.packetIn p) ∧ flowOf? h.xid p = .ok flow? ∧
      Message.encode t.version h.xid (answer (learnFrom t.table flow?) p flow?) = .ok bytes ∧
      (round t h body).writes = [bytes] := by
  have hwrote : (round t h body).writes ≠ [] := fun hnil => by
    rw [Round.answered_of_writes_nil hnil] at hanswered
    exact Bool.false_ne_true hanswered
  obtain ⟨p, hparse⟩ : ∃ p, Message.parse h body = .ok (.packetIn p) := by
    rcases hparse : Message.parse h body with e | m
    · simp [Round.answered, Round.packetIn?, round, hparse] at hanswered
    cases m
    case packetIn p => exact ⟨p, rfl⟩
    all_goals simp [Round.answered, Round.packetIn?, round, hparse] at hanswered
  by_cases hs : t.state = .established
  case neg =>
    have hstep : learningStep t h body = (.ok (), { t with journal :=
        ⟨.warn, "Packet-in before features reply, dropped"⟩ :: t.journal }) := by
      rw [learningStep, dispatch_run_packetIn_early _ t () hparse hs]
    exact absurd (round_writes_nil t hstep rfl) hwrote
  rcases hflow : flowOf? h.xid p with e | flow?
  · have hstep : learningStep t h body = (.error e, t) := by
      rw [learningStep, dispatch_run_packetIn _ t () hparse hs,
        packetIn_run_of_error _ h.xid p hflow t ()]
    exact absurd (round_writes_nil t hstep rfl) hwrote
  by_cases hwritten : ∃ bytes, Message.encode t.version h.xid
      (answer (learnFrom t.table flow?) p flow?) = .ok bytes ∧ t.link.writeFails = false
  · obtain ⟨bytes, hcode, hworks⟩ := hwritten
    exact ⟨p, flow?, bytes, hparse, hflow, hcode,
      round_writes_answer_written t hparse hs hflow hcode hworks⟩
  · exact absurd (round_writes_answer_refused t hparse hs hflow hwritten) hwrote

end Cases

/-- Handling a message with any variant follows the learning switch's handling of it, one case
per type of message. -/
theorem dispatch_follows (v : Variant σ) (w : σ) (t : Session) (journal : List LogLine)
    (sent : List (List UInt8)) (h : Header) (body : List UInt8) :
    Follows v w t sent h body ((dispatch v h body).run.run (t.withWrites journal sent, w)) := by
  rcases hparse : Message.parse h body with e | m
  · exact follows_of_parse_error v w t journal sent hparse
  cases m with
  | hello => exact follows_of_hello v w t journal sent hparse
  | error e => exact follows_of_errorReport v w t journal sent hparse
  | echoRequest d => exact follows_of_echoRequest v w t journal sent hparse
  | featuresReply f => exact follows_of_featuresReply v w t journal sent hparse
  | packetIn p => exact follows_of_packetIn v w t journal sent hparse
  | _ => exact follows_of_not_handled v w t journal sent hparse rfl

/-! ### Message after message -/

/-- Handling the next message either ends the run, with the outcome and session it leaves, or
goes on from where it leaves the session. -/
theorem dispatchAll_cons (v : Variant σ) (h : Header) (body : List UInt8)
    (msgs : List (Header × List UInt8)) (stop : WireError) (c : Session × σ) :
    dispatchAll v ((h, body) :: msgs) stop c =
      if endsRun ((dispatch v h body).run.run c).1 then
        (((dispatch v h body).run.run c).1, ({ ((dispatch v h body).run.run c).2.1 with
          state := .terminated }, ((dispatch v h body).run.run c).2.2))
      else dispatchAll v msgs stop ((dispatch v h body).run.run c).2 := by
  rw [dispatchAll]
  rcases (dispatch v h body).run.run c with ⟨_ | ⟨⟩, s', w'⟩ <;> rfl

theorem consultAll_cons (v : Variant σ) (w : σ) (r : Round) (rs : List Round) :
    consultAll v w (r :: rs) =
      ((consultAll v (r.consult v w).1 rs).1, (r.consult v w).2 :: (consultAll v (r.consult v w).1 rs).2) :=
  rfl

/-- Every round is some session's handling of some message. -/
theorem exists_round_of_mem {r : Round} (msgs : List (Header × List UInt8)) :
    ∀ t, r ∈ rounds msgs t → ∃ t h body, r = round t h body := by
  induction msgs with
  | nil => intro _ hr; simp [rounds] at hr
  | cons m msgs ih =>
    intro t hr
    obtain ⟨h, body⟩ := m
    rw [rounds, List.mem_cons] at hr
    rcases hr with rfl | hr
    · exact ⟨t, h, body, rfl⟩
    · split at hr
      · simp at hr
      · exact ih _ hr

/-- Handling messages one after another with any variant follows the learning switch round by
round: the variant's state is what the rounds' consultations leave, and each round writes what
the learning switch writes and then the injection the variant handed back in it. -/
theorem dispatchAll_consults (v : Variant σ) (stop : WireError) (msgs : List (Header × List UInt8)) :
    ∀ (t : Session) (journal : List LogLine) (sent : List (List UInt8)) (w : σ),
      (dispatchAll v msgs stop (t.withWrites journal sent, w)).2.2 =
          (consultAll v w (rounds msgs t)).1 ∧
        (dispatchAll v msgs stop (t.withWrites journal sent, w)).2.1.link.sentRev =
          (List.zipWith Round.output (rounds msgs t) (consultAll v w (rounds msgs t)).2).flatten.reverse ++
            sent := by
  induction msgs with
  | nil => exact fun _ _ _ _ => ⟨rfl, rfl⟩
  | cons m msgs ih =>
    obtain ⟨h, body⟩ := m
    intro t journal sent w
    obtain ⟨hends, j, hr⟩ := dispatch_follows v w t journal sent h body
    have hrounds : rounds ((h, body) :: msgs) t = round t h body ::
        if endsRun (learningStep t h body).1 then [] else rounds msgs (learningStep t h body).2 :=
      rfl
    rw [dispatchAll_cons, hends, hrounds]
    by_cases hend : endsRun (learningStep t h body).1 = true
    · simp only [hend, if_true, hr]
      refine ⟨rfl, ?_⟩
      rw [consultAll_cons]
      simp [Round.output, consultAll, runSteps, round_session]
    · simp only [hend, Bool.false_eq_true, if_false, hr]
      obtain ⟨hσ, hsent⟩ := ih (learningStep t h body).2 j
        ((injectionWrites t.version ((round t h body).consult v w).2).reverse ++
          ((round t h body).writes.reverse ++ sent)) ((round t h body).consult v w).1
      refine ⟨hσ, ?_⟩
      rw [hsent, consultAll_cons, List.zipWith_cons_cons, List.flatten_cons, List.reverse_append]
      simp [Round.output, round_session]

/-- The rounds of the learning switch on a new session's input: the messages it handles after
greeting the switch. -/
def learningRounds (input : List UInt8) : List Round :=
  rounds (splitMessages input).1 greeted

/-- A round of a new session's run that answered a packet-in wrote one message: the learning
switch's answer to that packet-in. -/
theorem learningRounds_answered {input : List UInt8} {r : Round} (hr : r ∈ learningRounds input)
    (hanswered : r.answered = true) :
    ∃ p flow? bytes, Message.parse r.header r.body = .ok (.packetIn p) ∧
      flowOf? r.header.xid p = .ok flow? ∧
      Message.encode r.session.version r.header.xid
        (answer (learnFrom r.session.table flow?) p flow?) = .ok bytes ∧
      r.writes = [bytes] := by
  obtain ⟨t, h, body, rfl⟩ := exists_round_of_mem _ _ hr
  exact round_writes_of_answered t hanswered

/-- A new session's run with any variant is the learning switch's run with the variant consulted
beside it. The variant's state ends as the rounds of the learning switch on the same input leave
it, consulted round by round. The session writes its greeting and then, round by round, what the
learning switch writes followed by the packet-out of the injection the variant handed back in
that round, unless the encoder refuses it. -/
theorem run_consults (v : Variant σ) (input : List UInt8) (w : σ) :
    ((run v).run.run ({ link := { pending := input } }, w)).2.2 =
        (consultAll v w (learningRounds input)).1 ∧
      ((run v).run.run ({ link := { pending := input } }, w)).2.1.link.sentRev.reverse =
        greeted.link.sentRev.reverse ++
          (List.zipWith Round.output (learningRounds input)
            (consultAll v w (learningRounds input)).2).flatten := by
  obtain ⟨-, hclear, hσ⟩ := run_endAlike v input w
  have hsent := congrArg (fun s : Session => s.link.sentRev) hclear
  obtain ⟨hw, hs⟩ := dispatchAll_consults v (splitMessages input).2 (splitMessages input).1 greeted
    greeted.journal greeted.link.sentRev w
  rw [withWrites_self] at hw hs
  refine ⟨hσ.trans hw, ?_⟩
  simp only [clear] at hsent
  rw [hsent, hs, List.reverse_append, List.reverse_reverse]
  rfl

end Session

end OpenFlow
