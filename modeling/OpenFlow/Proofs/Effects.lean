import OpenFlow.Proofs.MessageLoop

/-!
# What handling a message changes

A handled message can change where the session stands (`Session.standing`: its state, the
version it speaks and the switch's features), the hosts it has learned, the variant's state, the
log and what is written. This module says, message type by message type, what handling a message
does (`dispatch_run_hello`, `dispatch_run_featuresReply`, `dispatch_run_packetIn`, …), with one
spec for the longest handler, the packet-in's (`packetIn_run_of_ok`): it learns where the sender
is, hands a frame sent on purpose to the variant, and then only writes the policy's answer and
an injection.

Two properties of steps, closed under binding as `Session.Handler` is, say what those writes
may do: `Session.Keeps view m`, the step leaves a view of the session that sees neither the log
nor the link as it was, and `Session.FailsWith p m`, every failure of the step satisfies `p`. A
write fails only when the encoder refuses the message (`WireError.IsWriteRefusal`) or the link
breaks.
-/

namespace OpenFlow

/-- The errors of the encoder: a message too long for the length field, or a flow-mod with an
output to the flow table. -/
def WireError.IsWriteRefusal (e : WireError) : Prop :=
  (∃ n : Nat, e = .malformed "message" (toString n ++ " bytes exceeds the length field")) ∨
    e = .malformed "flow mod" "OFPP_TABLE not allowed in installed flow"

theorem WireError.IsWriteRefusal.not_fatal {e : WireError} (h : e.IsWriteRefusal) :
    e.isFatal = false := by
  rcases h with ⟨_, rfl⟩ | rfl <;> rfl

theorem Message.encode_error_isWriteRefusal {v : UInt8} {x : UInt32} {m : Message}
    {e : WireError} (h : encode v x m = .error e) : e.IsWriteRefusal := by
  rw [encode_eq] at h
  split at h
  · cases h
    exact .inl ⟨_, rfl⟩
  · cases hb : encodeBody m with
    | error e' =>
      rw [hb] at h
      cases h
      exact .inr (encodeBody_error hb)
    | ok body => rw [hb] at h; cases h

/-- Whether handling the message does more than log it. -/
def Message.isHandled : Message → Bool
  | .hello | .error _ | .echoRequest _ | .featuresReply _ | .packetIn _ => true
  | _ => false

namespace Session

variable {σ α β γ : Type}

/-! ### Running the primitive steps -/

@[simp] theorem run_log_bind (level : Level) (text : String) (k : Unit → SessionM σ α)
    (s : Session) (w : σ) :
    (log level text >>= k).run.run (s, w) =
      (k ()).run.run ({ s with journal := ⟨level, text⟩ :: s.journal }, w) :=
  rfl

@[simp] theorem run_logAll_bind (lines : List LogLine) (k : Unit → SessionM σ α) (s : Session)
    (w : σ) :
    (logAll lines >>= k).run.run (s, w) =
      (k ()).run.run ({ s with journal := lines.reverse ++ s.journal }, w) :=
  rfl

@[simp] theorem run_change_bind (f : Session → Session) (k : Unit → SessionM σ α)
    (s : Session) (w : σ) : (change f >>= k).run.run (s, w) = (k ()).run.run (f s, w) :=
  rfl

@[simp] theorem run_hook_bind (f : σ → σ × List LogLine × β) (k : β → SessionM σ α)
    (s : Session) (w : σ) :
    (hook f >>= k).run.run (s, w) =
      (k (f w).2.2).run.run ({ s with journal := (f w).2.1.reverse ++ s.journal }, (f w).1) :=
  rfl

/-! ### Views kept and failures -/

/-- Where a session stands: its state, the version it speaks and the switch's features. -/
def standing (s : Session) : SessionState × UInt8 × Option SwitchFeatures :=
  (s.state, s.version, s.features)

/-- A view of a session that sees neither its log nor its link. -/
structure Blind (view : Session → γ) : Prop where
  journal : ∀ s j, view { s with journal := j } = view s
  link : ∀ s l, view { s with link := l } = view s

@[simp] theorem clear_version (s : Session) : s.clear.version = s.version := rfl

@[simp] theorem clear_features (s : Session) : s.clear.features = s.features := rfl

@[simp] theorem standing_clear (s : Session) : s.clear.standing = s.standing := rfl

theorem standing_eq_of_clear {s t : Session} (h : s.clear = t.clear) : s.standing = t.standing := by
  rw [← standing_clear s, h, standing_clear]

theorem blind_standing : Blind standing := ⟨fun _ _ => rfl, fun _ _ => rfl⟩

theorem blind_table : Blind Session.table := ⟨fun _ _ => rfl, fun _ _ => rfl⟩

/-- A step that leaves a view of the session as it was, whatever its outcome. -/
def Keeps (view : Session → γ) (m : SessionM σ α) : Prop :=
  ∀ c, view (m.run.run c).2.1 = view c.1

/-- A step whose every failure satisfies `p`. -/
def FailsWith (p : WireError → Prop) (m : SessionM σ α) : Prop :=
  ∀ c e, (m.run.run c).1 = .error e → p e

namespace Keeps

variable {view : Session → γ}

theorem pure (a : α) : Keeps view (Pure.pure a : SessionM σ α) := fun _ => rfl

theorem bind {m : SessionM σ α} {k : α → SessionM σ β} (hm : Keeps view m)
    (hk : ∀ a, Keeps view (k a)) : Keeps view (m >>= k) := by
  intro c
  have hfirst := hm c
  rcases hr : m.run.run c with ⟨_ | a, c₁⟩ <;> rw [hr] at hfirst
  · rw [run_bind_error hr]
    exact hfirst
  · rw [run_bind_ok hr]
    exact (hk a c₁).trans hfirst

theorem change {f : Session → Session} (hf : ∀ s, view (f s) = view s) :
    Keeps view (Session.change f : SessionM σ Unit) :=
  fun c => hf c.1

theorem log (hv : Blind view) (level : Level) (text : String) :
    Keeps view (Session.log level text : SessionM σ Unit) :=
  change fun s => hv.journal s _

theorem hook (hv : Blind view) (f : σ → σ × List LogLine × α) :
    Keeps view (Session.hook f) := by
  rintro ⟨s, w⟩
  rw [run_hook]
  exact hv.journal s _

theorem send (hv : Blind view) (xid : UInt32) (m : Message) :
    Keeps view (Session.send xid m : SessionM σ Unit) := by
  rintro ⟨s, w⟩
  rw [run_send]
  rcases Message.encode s.version xid m with e | bytes
  · rfl
  · cases hwf : s.link.writeFails
    · simpa only [Bool.false_eq_true, if_false] using (hv.link _ _).trans (hv.journal s _)
    · simpa only [if_true] using hv.journal s _

theorem inject (hv : Blind view) (v : Variant σ) : Keeps view (Session.inject v) := by
  unfold Session.inject
  refine (hook hv _).bind fun injection => ?_
  split
  · exact (log hv _ _).bind fun _ => send hv _ _
  · exact pure ()

end Keeps

namespace FailsWith

variable {p : WireError → Prop}

theorem pure (a : α) : FailsWith p (Pure.pure a : SessionM σ α) := fun _ _ h => nomatch h

theorem bind {m : SessionM σ α} {k : α → SessionM σ β} (hm : FailsWith p m)
    (hk : ∀ a, FailsWith p (k a)) : FailsWith p (m >>= k) := by
  intro c e he
  rcases hr : m.run.run c with ⟨_ | a, c₁⟩
  · rw [run_bind_error hr] at he
    obtain rfl := Except.error.inj he
    exact hm c _ (by rw [hr])
  · rw [run_bind_ok hr] at he
    exact hk a c₁ e he

theorem log (level : Level) (text : String) :
    FailsWith p (Session.log level text : SessionM σ Unit) :=
  fun _ _ h => nomatch h

theorem hook (f : σ → σ × List LogLine × α) : FailsWith p (Session.hook f) := by
  rintro ⟨s, w⟩ e he
  rw [run_hook] at he
  cases he

/-- A write fails only when the encoder refuses the message or the link breaks. -/
theorem send (hp : ∀ e, e.IsWriteRefusal → p e) (hpipe : p (.transportFailure .brokenPipe))
    (xid : UInt32) (m : Message) : FailsWith p (Session.send xid m : SessionM σ Unit) := by
  rintro ⟨s, w⟩ e he
  rw [run_send] at he
  rcases hencode : Message.encode s.version xid m with e' | bytes <;> rw [hencode] at he
  · cases he
    exact hp e (Message.encode_error_isWriteRefusal hencode)
  · by_cases hwf : s.link.writeFails = true
    · simp only [hwf, if_true, Except.error.injEq] at he
      exact he ▸ hpipe
    · simp only [hwf, if_false, reduceCtorEq] at he

theorem inject (hp : ∀ e, e.IsWriteRefusal → p e) (hpipe : p (.transportFailure .brokenPipe))
    (v : Variant σ) : FailsWith p (Session.inject v) := by
  unfold Session.inject
  refine (hook _).bind fun injection => ?_
  split
  · exact (log _ _).bind fun _ => send hp hpipe _ _
  · exact pure ()

end FailsWith

/-! ### Handling a packet-in -/

/-- The flow of a packet-in's frame, none for a frame of unknown ethernet type, or the failure
of reading any other frame. -/
def flowOf? (xid : UInt32) (p : PacketIn) : Except WireError (Option Flow) :=
  match Flow.ofPacketIn xid p with
  | .ok f => .ok (some f)
  | .error (.unknownEtherType _) => .ok none
  | .error e => .error e

/-- The learning table after learning where the sender of a flow is. -/
def learnFrom (t : LearningTable) : Option Flow → LearningTable
  | some f => (t.learn f.dlSrc f.inPort).1
  | none => t

/-- The forwarding policy's answer to a packet-in, by the table it consults: a flow towards the
port it installs, or a flood of the packet. -/
def answer (t : LearningTable) (p : PacketIn) : Option Flow → Message
  | some f =>
    match decide f t with
    | .install port => .flowMod (installFlow f port)
    | _ => .packetOut (flood p)
  | none => .packetOut (flood p)

/-- The variant's state after it was handed a frame the switch sent on purpose. -/
def captured (v : Variant σ) (p : PacketIn) (w : σ) : σ :=
  if p.reason = .explicitSend then (v.capture p.payload.data w).1 else w

theorem packetIn_run_of_error (v : Variant σ) (xid : UInt32) (p : PacketIn) {e : WireError}
    (h : flowOf? xid p = .error e) (s : Session) (w : σ) :
    (packetIn v xid p).run.run (s, w) = (.error e, (s, w)) := by
  unfold flowOf? at h
  unfold packetIn
  rcases hflow : Flow.ofPacketIn xid p with e' | f
  · rw [hflow] at h
    cases e' with
    | unknownEtherType t => cases h
    | _ =>
      cases h
      rfl
  · rw [hflow] at h
    cases h

/-- A packet-in whose frame is read learns where the sender is and hands a frame sent on
purpose to the variant; the rest is the policy's answer and the variant's injection. -/
theorem packetIn_run_of_ok (v : Variant σ) (xid : UInt32) (p : PacketIn) {flow? : Option Flow}
    (h : flowOf? xid p = .ok flow?) (s : Session) (w : σ) :
    ∃ j, (packetIn v xid p).run.run (s, w) =
      (send xid (answer (learnFrom s.table flow?) p flow?) >>= fun _ => inject v).run.run
        ({ s with table := learnFrom s.table flow?, journal := j }, captured v p w) := by
  unfold flowOf? at h
  unfold packetIn
  rcases hflow : Flow.ofPacketIn xid p with e' | f
  · rw [hflow] at h
    cases e' with
    | unknownEtherType t =>
      cases h
      simp only [pure_bind, run_log_bind]
      by_cases hr : p.reason = .explicitSend
      · simp only [hr, if_true, run_hook_bind, run_current_bind, answer, learnFrom, captured,
          run_log_bind]
        exact ⟨_, rfl⟩
      · simp only [hr, if_false, run_current_bind, answer, learnFrom, captured, run_log_bind]
        exact ⟨_, rfl⟩
    | _ => cases h
  · rw [hflow] at h
    cases h
    simp only [pure_bind, run_log_bind, run_current_bind, run_change_bind, run_logAll_bind]
    by_cases hr : p.reason = .explicitSend
    · simp only [hr, if_true, run_hook_bind, run_current_bind]
      rcases hd : decide f (s.table.learn f.dlSrc f.inPort).1 with port | _ | _
      all_goals simp only [answer, learnFrom, captured, hr, hd, if_true, run_log_bind]
      all_goals exact ⟨_, rfl⟩
    · simp only [hr, if_false, run_current_bind]
      rcases hd : decide f (s.table.learn f.dlSrc f.inPort).1 with port | _ | _
      all_goals simp only [answer, learnFrom, captured, hr, hd, if_false, run_log_bind]
      all_goals exact ⟨_, rfl⟩

/-- Handling a packet-in keeps where the session stands. -/
theorem keeps_standing_packetIn (v : Variant σ) (xid : UInt32) (p : PacketIn) :
    Keeps standing (packetIn v xid p) := by
  rintro ⟨s, w⟩
  rcases hflow : flowOf? xid p with e | flow?
  · rw [packetIn_run_of_error v xid p hflow]
  · obtain ⟨j, hrun⟩ := packetIn_run_of_ok v xid p hflow s w
    rw [hrun]
    exact ((Keeps.send blind_standing _ _).bind fun _ => Keeps.inject blind_standing v) _

/-! ### Handling a message, by its type -/

section Dispatch

variable (v : Variant σ) {h : Header} {body : List UInt8} (s : Session) (w : σ)

/-- A hello lowers the version the session speaks to the switch's, when that is older. -/
theorem dispatch_run_hello (hparse : Message.parse h body = .ok .hello) :
    ∃ j, (dispatch v h body).run.run (s, w) = (.ok (), ({ s with
      version := if h.version < s.version then h.version else s.version, journal := j }, w)) := by
  simp only [dispatch, hparse, run_check_ok_bind, run_current_bind]
  by_cases hv : h.version < s.version
  · simp only [hv, if_true, run_log_bind]
    exact ⟨_, rfl⟩
  · simp only [hv, if_false]
    exact ⟨s.journal, rfl⟩

/-- An echo request is answered with its own data. -/
theorem dispatch_run_echoRequest {d : List UInt8}
    (hparse : Message.parse h body = .ok (.echoRequest d)) :
    (dispatch v h body).run.run (s, w) = (send h.xid (.echoReply d)).run.run (s, w) := by
  simp only [dispatch, hparse, run_check_ok_bind]

/-- A features reply before the session asked for features is dropped. -/
theorem dispatch_run_featuresReply_early {f : SwitchFeatures}
    (hparse : Message.parse h body = .ok (.featuresReply f)) (hs : s.state = .connecting) :
    (dispatch v h body).run.run (s, w) = (.ok (), ({ s with journal :=
      ⟨.warn, "Features reply before features request, dropped"⟩ :: s.journal }, w)) := by
  simp only [dispatch, hparse, run_check_ok_bind, run_current_bind]
  rw [if_pos hs]
  rfl

/-- Any later features reply replaces the features, establishes the session and is handed to
the variant. -/
theorem dispatch_run_featuresReply {f : SwitchFeatures}
    (hparse : Message.parse h body = .ok (.featuresReply f)) (hs : s.state ≠ .connecting) :
    ∃ j, (dispatch v h body).run.run (s, w) =
      (.ok (), ({ s with features := some f, state := .established, journal := j },
        (v.featuresKnown f w).1)) := by
  simp only [dispatch, hparse, run_check_ok_bind, run_current_bind, hs, if_false, featuresKnown]
  by_cases he : s.state = .established
  · simp only [he, if_true, run_log_bind, run_logAll_bind, run_hook_bind]
    exact ⟨_, rfl⟩
  · simp only [he, if_false, run_log_bind, run_logAll_bind, run_hook_bind]
    exact ⟨_, rfl⟩

/-- A packet-in before the switch's features are known is dropped. -/
theorem dispatch_run_packetIn_early {p : PacketIn}
    (hparse : Message.parse h body = .ok (.packetIn p)) (hs : s.state ≠ .established) :
    (dispatch v h body).run.run (s, w) = (.ok (), ({ s with journal :=
      ⟨.warn, "Packet-in before features reply, dropped"⟩ :: s.journal }, w)) := by
  simp only [dispatch, hparse, run_check_ok_bind, run_current_bind]
  rw [if_pos hs]
  rfl

theorem dispatch_run_packetIn {p : PacketIn} (hparse : Message.parse h body = .ok (.packetIn p))
    (hs : s.state = .established) :
    (dispatch v h body).run.run (s, w) = (packetIn v h.xid p).run.run (s, w) := by
  simp only [dispatch, hparse, run_check_ok_bind, run_current_bind, hs]
  rfl

/-- Every other message is only logged. -/
theorem dispatch_run_of_not_handled {m : Message} (hparse : Message.parse h body = .ok m)
    (hm : m.isHandled = false) :
    (dispatch v h body).run.run (s, w) = (.ok (),
      ({ s with journal := ⟨.debug, "Ignoring " ++ m.code.name⟩ :: s.journal }, w)) := by
  cases m
  all_goals first
    | (simp only [dispatch, hparse, run_check_ok_bind]; rfl)
    | cases hm

/-- Where handling a message leaves the session: where it stood, or, for a hello, with the
switch's version when that is older, or, for a features reply after the greeting, established
with the reply's features and the variant told of them. -/
theorem dispatch_standing (h : Header) (body : List UInt8) :
    ((dispatch v h body).run.run (s, w)).2.1.standing = s.standing ∨
      (Message.parse h body = .ok .hello ∧ ((dispatch v h body).run.run (s, w)).1 = .ok () ∧
        ((dispatch v h body).run.run (s, w)).2.1.standing =
          (s.state, if h.version < s.version then h.version else s.version, s.features)) ∨
      (∃ f, Message.parse h body = .ok (.featuresReply f) ∧ s.state ≠ .connecting ∧
        ((dispatch v h body).run.run (s, w)).1 = .ok () ∧
        ((dispatch v h body).run.run (s, w)).2.1.standing = (.established, s.version, some f) ∧
        ((dispatch v h body).run.run (s, w)).2.2 = (v.featuresKnown f w).1) := by
  rcases hparse : Message.parse h body with e | m
  · exact .inl (by rw [dispatch_run_of_parse_error v h body hparse])
  cases m with
  | hello =>
    obtain ⟨j, hrun⟩ := dispatch_run_hello v s w hparse
    exact .inr (.inl (by rw [hrun]; exact ⟨rfl, rfl, rfl⟩))
  | error e => exact .inl (by rw [dispatch_run_of_errorReport v h body hparse])
  | echoRequest d =>
    refine .inl ?_
    rw [dispatch_run_echoRequest v s w hparse]
    exact Keeps.send blind_standing _ _ _
  | featuresReply f =>
    by_cases hs : s.state = .connecting
    · exact .inl (by rw [dispatch_run_featuresReply_early v s w hparse hs]; rfl)
    · obtain ⟨j, hrun⟩ := dispatch_run_featuresReply v s w hparse hs
      exact .inr (.inr ⟨f, rfl, hs, by rw [hrun], by rw [hrun]; rfl, by rw [hrun]⟩)
  | packetIn p =>
    by_cases hs : s.state = .established
    · refine .inl ?_
      rw [dispatch_run_packetIn v s w hparse hs]
      exact keeps_standing_packetIn v _ p _
    · exact .inl (by rw [dispatch_run_packetIn_early v s w hparse hs]; rfl)
  | _ => exact .inl (by rw [dispatch_run_of_not_handled v s w hparse rfl]; rfl)

end Dispatch

end Session

end OpenFlow
