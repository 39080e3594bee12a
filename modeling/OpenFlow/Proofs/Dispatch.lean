import OpenFlow.Proofs.Handler

/-!
# Which messages end a session

Handling one message from the switch (`Session.dispatch`) is a `Handler`: built from the rules
of `OpenFlow.Proofs.Handler` over the handlers of features replies, packet-ins and injections.
On a working link its failures are faults of the body, or protocol violations for a type byte
above 21 and for an error report of the switch.

The main statement is `Session.dispatch_fatal_iff`: handling a message ends the session exactly
for a type byte above 21, for an error report with a body of at least four bytes, or when a
write it makes fails on a link that refuses writes. No other content of a body, however
malformed, ends the session: every other failure is a fault of the body.
-/

namespace OpenFlow

namespace Session

variable {σ : Type}

namespace Handler

variable {p : WireError → Prop}

/-- Taking in a switch's features only logs, consults the variant and records them. -/
theorem featuresKnown (v : Variant σ) (f : SwitchFeatures) :
    Handler p (Session.featuresKnown v f) := by
  unfold Session.featuresKnown
  refine current_bind (fun s => ?_) (by intros; rfl) (by intros; rfl)
  dsimp only
  split
  case' isTrue => refine (log _ _).bind fun _ => ?_
  all_goals
    exact (log _ _).bind fun _ => (logAll _).bind fun _ => (hook _).bind fun _ =>
      change (by intros; rfl) (by intros; rfl) (by intros; rfl) (by intro _ h; cases h)

/-- An injection fails on a working link only for a frame too long to write. -/
theorem inject (v : Variant σ) (hp : ∀ what reason, p (.malformed what reason)) :
    Handler p (Session.inject v) := by
  unfold Session.inject
  refine (hook _).bind fun injection => ?_
  split
  · exact (log _ _).bind fun _ => send _ _ hp
  · exact pure ()

/-- Handling a packet-in: learning the sender, the variant's capture, the answer by the
forwarding policy and an injection. It fails on a working link only with a fault of the frame
or for a message too long to write. -/
theorem packetIn (v : Variant σ) (xid : UInt32) (pi : PacketIn) :
    Handler (fun e => e.isBodyFault = true) (Session.packetIn v xid pi) := by
  have hsend : ∀ xid m,
      Handler (fun e => e.isBodyFault = true) (Session.send xid m : SessionM σ Unit) :=
    fun _ _ => send _ _ fun _ _ => rfl
  have hinject := inject v (p := fun e => e.isBodyFault = true) fun _ _ => rfl
  unfold Session.packetIn
  dsimp only
  split
  case' h_1 => refine (Handler.pure _).bind fun flow? => ?_
  case' h_2 => refine (log _ _).bind fun _ => (Handler.pure _).bind fun flow? => ?_
  case' h_3 e hother hflow =>
    refine throw_bind ?_ _
    rcases Flow.ofPacketIn_error hflow with hfault | ⟨t, rfl⟩
    · exact hfault
    · exact absurd rfl (hother t)
  all_goals
    split
    case' h_1 =>
      refine (log _ _).bind fun _ => current_bind (fun s => ?_) (by intros; rfl) (by intros; rfl)
      refine (change (by intros; rfl) (by intros; rfl) (by intros; rfl)
        (by intro _ h; exact h)).bind fun _ => (logAll _).bind fun _ =>
          current_bind (fun s => (log _ _).bind fun _ => ?_) (by intros; rfl) (by intros; rfl)
    all_goals
      split
      case' isTrue => refine (hook _).bind fun _ => ?_
      all_goals
        refine current_bind (fun s => ?_) (by intros; rfl) (by intros; rfl)
        split
        · exact (hsend _ _).bind fun _ => hinject
        · exact (hsend _ _).bind fun _ => hinject
        · exact (log _ _).bind fun _ => (hsend _ _).bind fun _ => hinject

/-- Handling a message fails, on a working link, with a fault of its body or with a protocol
violation: for a type byte above 21, or for an error report of the switch. -/
theorem dispatch (v : Variant σ) (h : Header) (body : List UInt8) :
    Handler (fun e => e.isBodyFault = true ∨
      (e.isFatal = true ∧ (21 < h.typeCode.toNat ∨ (h.typeCode = 1 ∧ 4 ≤ body.length))))
      (Session.dispatch v h body) := by
  unfold Session.dispatch
  refine check_bind (fun e he => ?_) (fun m hm => ?_)
  · rcases Message.parse_error he with ⟨hbig, r, rfl⟩ | hfault
    · exact .inr ⟨rfl, .inl hbig⟩
    · exact .inl hfault
  cases m with
  | hello =>
    refine current_bind (fun s => ?_) (by intros; rfl) (by intros; rfl)
    split
    · exact (log _ _).bind fun _ =>
        change (by intros; rfl) (by intros; rfl) (by intros; rfl) (by intro _ h; exact h)
    · exact pure ()
  | error e => exact throw (.inr ⟨rfl, .inr (Message.parse_eq_errorReport hm)⟩)
  | echoRequest d => exact send _ _ fun _ _ => .inl rfl
  | featuresReply f =>
    refine current_bind (fun s => ?_) (by intros; rfl) (by intros; rfl)
    split
    · exact log _ _
    · exact featuresKnown v f
  | packetIn pi =>
    refine current_bind (fun s => ?_) (by intros; rfl) (by intros; rfl)
    split
    · exact log _ _
    · exact (packetIn v h.xid pi).mono fun _ he => .inl he
  | _ => exact log _ _

end Handler

/-! ### Fatal errors of handling a message -/

section Dispatch

variable (v : Variant σ) (h : Header) (body : List UInt8)

theorem dispatch_run_of_parse_error {e : WireError} (hparse : Message.parse h body = .error e)
    (c : Session × σ) : (dispatch v h body).run.run c = (.error e, c) := by
  rw [dispatch, hparse]
  rfl

theorem dispatch_run_of_errorReport {e : ErrorMsg}
    (hparse : Message.parse h body = .ok (.error e)) (c : Session × σ) :
    (dispatch v h body).run.run c =
      (.error (.protocolViolation ("switch reported " ++ e.text)), c) := by
  rw [dispatch, hparse]
  rfl

/-- On a working link, handling a message ends the session exactly for a type byte above 21
or an error report of the switch. -/
theorem dispatch_fatal_iff_of_works (s : Session) (w : σ) (hs : s.link.writeFails = false) :
    (∃ e, ((dispatch v h body).run.run (s, w)).1 = .error e ∧ e.isFatal) ↔
      21 < h.typeCode.toNat ∨ (h.typeCode = 1 ∧ 4 ≤ body.length) := by
  constructor
  · rintro ⟨e, he, hfatal⟩
    rcases (Handler.dispatch v h body).faults (s, w) hs e he with hfault | ⟨_, hcond⟩
    · rw [WireError.not_isFatal_of_isBodyFault hfault] at hfatal
      cases hfatal
    · exact hcond
  · rintro (hbig | ⟨htype, hlen⟩)
    · obtain ⟨r, hr⟩ := Message.parse_unknownType body hbig
      exact ⟨_, by rw [dispatch_run_of_parse_error v h body hr], rfl⟩
    · obtain ⟨e, he⟩ := Message.parse_errorReport htype hlen
      exact ⟨_, by rw [dispatch_run_of_errorReport v h body he], rfl⟩

/-- On a link that refuses writes, handling a message goes as on a working link and then fails
with a broken pipe, if it writes. -/
theorem dispatch_run_of_fails (s : Session) (w : σ) (hs : s.link.writeFails = true) :
    ((dispatch v h body).run.run (s, w)).1 =
      if ((dispatch v h body).run.run (s.working, w)).2.1.link.sentRev = s.link.sentRev then
        ((dispatch v h body).run.run (s.working, w)).1
      else .error (.transportFailure .brokenPipe) := by
  have H := Handler.dispatch v h body
  have hworks : s.working.link.writeFails = false := rfl
  conv => lhs; rw [← failing_working hs]
  split
  · rename_i hsame
    rw [H.sameUntilWrite _ _ hworks hsame]
  · rename_i hwrote
    exact H.failsAtWrite _ _ hworks hwrote

/-- Handling a message ends the session exactly for a type byte above 21, for an error report
of the switch, or when a write it makes fails; every other failure is a fault of the body and
only drops the message. Reading the body fails with a protocol violation only for a type byte
above 21, and otherwise only with a fault of the body. -/
theorem dispatch_fatal_iff (s : Session) (w : σ) :
    ((∃ e, ((dispatch v h body).run.run (s, w)).1 = .error e ∧ e.isFatal) ↔
      21 < h.typeCode.toNat ∨ (h.typeCode = 1 ∧ 4 ≤ body.length) ∨
      (s.link.writeFails = true ∧
        ((dispatch v h body).run.run (s.working, w)).2.1.link.sentRev ≠ s.link.sentRev)) ∧
    (∀ e, ((dispatch v h body).run.run (s, w)).1 = .error e → e.isFatal ∨ e.isBodyFault) ∧
    (∀ e, Message.parse h body = .error e →
      (21 < h.typeCode.toNat ∧ ∃ r, e = .protocolViolation r) ∨ e.isBodyFault) := by
  have H := Handler.dispatch v h body
  have hworks : s.working.link.writeFails = false := rfl
  have hfaults : ∀ e, ((dispatch v h body).run.run (s.working, w)).1 = .error e →
      e.isFatal ∨ e.isBodyFault := by
    intro e he
    rcases H.faults _ hworks e he with hfault | ⟨hfatal, _⟩
    · exact .inr hfault
    · exact .inl hfatal
  refine ⟨?_, ?_, fun e he => Message.parse_error he⟩
  · cases hs : s.link.writeFails
    · rw [dispatch_fatal_iff_of_works v h body s w hs]
      simp
    · rw [dispatch_run_of_fails v h body s w hs]
      split
      · rename_i hsame
        rw [dispatch_fatal_iff_of_works v h body s.working w hworks]
        simp [hsame]
      · rename_i hwrote
        simp [hwrote, WireError.isFatal]
  · intro e he
    cases hs : s.link.writeFails
    · rw [← working_eq_self hs] at he
      exact hfaults e he
    · rw [dispatch_run_of_fails v h body s w hs] at he
      split at he
      · exact hfaults e he
      · cases he
        exact .inl rfl

end Dispatch

end Session

end OpenFlow
