import OpenFlow.Proofs.Drops
import OpenFlow.Proofs.Writes

/-!
# How the learning switch answers a packet-in

An established session handles a packet-in whose frame it can read in four steps
(`Session.dispatch_packetIn_answer`). It learns that the frame's sender sits on the port the
packet came in on, unless the frame's ethernet type is unknown: the table then sends that
address to the port and every other address where it sent it before
(`LearningTable.lookup_learn`). It hands a frame the switch sent on purpose to the variant. It
writes its answer, with the packet-in's transaction id, before anything else: a flow-mod towards
the port the destination was learned on for an IPv4 frame or an ARP reply (`Flow.Installs`,
`Session.answer_eq`), and a flood of the packet for every other frame. Last, the variant may inject a
frame.

The answer is written only when it fits the length field: a flood carries the frame itself
when the switch buffered none, and a packet-in may carry a frame six bytes longer than a flood
can. Then nothing is written and the message is dropped, after its sender was learned
(`Session.overlong_flood_writes_nothing`).
-/

namespace OpenFlow

/-! ### The learning table -/

/-- Addresses are ordered by their bytes read as one number, which tells them apart. -/
theorem MacAddr.key_inj {a b : MacAddr} (h : a.key = b.key) : a = b := by
  obtain ⟨a0, a1, a2, a3, a4, a5⟩ := a
  obtain ⟨b0, b1, b2, b3, b4, b5⟩ := b
  simp only [key, toList, List.foldl_cons, List.foldl_nil] at h
  have := UInt8.toNat_lt_size a0; have := UInt8.toNat_lt_size a1
  have := UInt8.toNat_lt_size a2; have := UInt8.toNat_lt_size a3
  have := UInt8.toNat_lt_size a4; have := UInt8.toNat_lt_size a5
  have := UInt8.toNat_lt_size b0; have := UInt8.toNat_lt_size b1
  have := UInt8.toNat_lt_size b2; have := UInt8.toNat_lt_size b3
  have := UInt8.toNat_lt_size b4; have := UInt8.toNat_lt_size b5
  have hbytes : a0.toNat = b0.toNat ∧ a1.toNat = b1.toNat ∧ a2.toNat = b2.toNat ∧
      a3.toNat = b3.toNat ∧ a4.toNat = b4.toNat ∧ a5.toNat = b5.toNat := by
    simp only [UInt8.size] at *
    omega
  simp only [UInt8.toNat_inj] at hbytes
  obtain ⟨rfl, rfl, rfl, rfl, rfl, rfl⟩ := hbytes
  rfl

namespace LearningTable

theorem find?_cons (e : MacAddr × UInt16) (es : List (MacAddr × UInt16)) (m : MacAddr) :
    (⟨e :: es⟩ : LearningTable).find? m =
      if e.1 = m then some e.2 else (⟨es⟩ : LearningTable).find? m := by
  by_cases he : e.1 = m <;> simp [find?, he]

/-- Inserting an address sets its port and leaves every other address where it was found. -/
theorem find?_insertSorted (mac : MacAddr) (port : UInt16) (es : List (MacAddr × UInt16))
    (m : MacAddr) :
    (⟨insertSorted mac port es⟩ : LearningTable).find? m =
      if m = mac then some port else (⟨es⟩ : LearningTable).find? m := by
  fun_induction insertSorted mac port es with
  | case1 =>
    rw [find?_cons]
    by_cases hm : m = mac
    · simp [hm]
    · simp [hm, Ne.symm hm, find?]
  | case2 m' p rest =>
    rw [find?_cons]
    by_cases hm : m = mac
    · simp [hm]
    · simp [hm, Ne.symm hm]
  | case3 m' p rest hlt heq =>
    have hsame := MacAddr.key_inj heq
    subst hsame
    rw [find?_cons, find?_cons]
    by_cases hm : m = mac
    · simp [hm]
    · simp [hm, Ne.symm hm]
  | case4 m' p rest hlt hne ih =>
    have hm' : m' ≠ mac := fun h => hne (h ▸ rfl)
    rw [find?_cons, find?_cons, ih]
    by_cases hm : m = mac
    · subst hm
      simp [hm']
    · rw [if_neg hm, if_neg hm]

/-- After learning, an address is sent to the port it was learned on, and every other address
where it was sent before. -/
theorem lookup_learn (t : LearningTable) (mac : MacAddr) (port : UInt16) (m : MacAddr) :
    (t.learn mac port).1.lookup m = if m = mac then .physical port else t.lookup m := by
  rw [learn_fst, lookup, find?_insertSorted]
  by_cases hm : m = mac
  · rw [if_pos hm, if_pos hm]
  · rw [if_neg hm, if_neg hm]
    rfl

end LearningTable

/-! ### Reading the frame -/

/-- A structure cut short: it needed more bytes than it got. -/
def WireError.IsTruncation (e : WireError) : Prop :=
  ∃ what needed got, e = .truncated what needed got

theorem need_truncation {what : String} {frame : List UInt8} {len : Nat} {e : WireError}
    (h : need what frame len = .error e) : e.IsTruncation := by
  unfold need at h
  split at h
  · exact ⟨what, len, frame.length, (Except.error.inj h).symm⟩
  · cases h

namespace Flow

theorem withArp_truncation {f : Flow} {frame : List UInt8} {e : WireError}
    (h : f.withArp frame = .error e) : e.IsTruncation := by
  unfold withArp at h
  rcases except_error_of_bind h with hneed | ⟨_, _, h⟩
  · exact need_truncation hneed
  · dsimp only at h
    split at h <;> cases h

theorem withIpv4_truncation {f : Flow} {frame : List UInt8} {e : WireError}
    (h : f.withIpv4 frame = .error e) : e.IsTruncation := by
  unfold withIpv4 at h
  rcases except_error_of_bind h with hneed | ⟨_, _, h⟩
  · exact need_truncation hneed
  · simp only at h
    split at h <;> split at h <;> cases h

/-- Reading a packet-in's frame fails only for a header cut short or an unknown ethernet type. -/
theorem ofPacketIn_error_cases {xid : UInt32} {pi : PacketIn} {e : WireError}
    (h : ofPacketIn xid pi = .error e) : e.IsTruncation ∨ ∃ t, e = .unknownEtherType t := by
  unfold ofPacketIn at h
  simp only at h
  rcases except_error_of_bind h with hneed | ⟨_, _, h⟩
  · exact .inl (need_truncation hneed)
  split at h
  case' isTrue =>
    rcases except_error_of_bind h with hneed | ⟨_, _, h⟩
    · exact .inl (need_truncation hneed)
  all_goals
    simp only [except_pure, except_ok_bind] at h
    split at h
    · exact .inl (withArp_truncation h)
    · exact .inl (withIpv4_truncation h)
    all_goals first
      | exact .inr ⟨_, (Except.error.inj h).symm⟩
      | cases h

/-- What a flow takes over from its packet-in unread: the buffer, the frame's length, the port
it came in on and why the switch sent it. -/
def origin (f : Flow) : UInt32 × UInt16 × UInt16 × PacketInReason :=
  (f.bufferId, f.totalLen, f.inPort, f.reason)

theorem withArp_origin {f g : Flow} {frame : List UInt8} (h : f.withArp frame = .ok g) :
    g.origin = f.origin := by
  unfold withArp at h
  obtain ⟨_, -, h⟩ := except_ok_of_bind h
  dsimp only at h
  split at h <;> cases h <;> rfl

theorem withIpv4_origin {f g : Flow} {frame : List UInt8} (h : f.withIpv4 frame = .ok g) :
    g.origin = f.origin := by
  unfold withIpv4 at h
  obtain ⟨_, -, h⟩ := except_ok_of_bind h
  simp only at h
  split at h <;> split at h <;> cases h <;> rfl

theorem ofPacketIn_origin {xid : UInt32} {pi : PacketIn} {f : Flow}
    (h : ofPacketIn xid pi = .ok f) :
    f.origin = (pi.payload.bufferId, pi.totalLen, pi.port, pi.reason) := by
  unfold ofPacketIn at h
  simp only at h
  obtain ⟨_, -, h⟩ := except_ok_of_bind h
  split at h
  case' isTrue => obtain ⟨_, -, h⟩ := except_ok_of_bind h
  all_goals
    simp only [except_pure, except_ok_bind] at h
    split at h
    · rw [withArp_origin h]
      rfl
    · rw [withIpv4_origin h]
      rfl
    all_goals first
      | (cases h; rfl)
      | cases h

theorem ofPacketIn_bufferId {xid : UInt32} {pi : PacketIn} {f : Flow}
    (h : ofPacketIn xid pi = .ok f) : f.bufferId = pi.payload.bufferId :=
  congrArg Prod.fst (ofPacketIn_origin h)

end Flow

/-! ### The policy's answer -/

/-- The frames the learning switch installs a flow for: IPv4 frames and ARP replies. -/
def Flow.Installs (f : Flow) : Prop :=
  f.etherType = .ip ∨ (f.etherType = .arp ∧ f.nwProto = arpReply)

instance : DecidablePred Flow.Installs := fun _ => inferInstanceAs (Decidable (_ ∨ _))

/-- The policy installs a flow towards the destination's port exactly for the frames it installs
flows for, and floods every other packet. -/
theorem Session.answer_eq (t : LearningTable) (p : PacketIn) (f : Flow) :
    Session.answer t p (some f) =
      if f.Installs then .flowMod (installFlow f (t.lookup f.dlDst)) else .packetOut (flood p) := by
  dsimp only [Session.answer]
  by_cases hi : f.Installs
  · rw [if_pos hi]
    rcases hi with hip | ⟨harp, hrep⟩
    · rw [OpenFlow.decide, hip]
    · rw [OpenFlow.decide, harp, if_neg (by rw [hrep]; decide), if_pos hrep]
  · rw [if_neg hi, OpenFlow.decide]
    rcases hty : f.etherType with _ | _ | _ | _ | _ | _ | n
    case ip => exact absurd (.inl hty) hi
    case arp =>
      by_cases hreq : f.nwProto = arpRequest
      · rw [if_pos hreq]
      · have hrep : f.nwProto ≠ arpReply := fun hrep => hi (.inr ⟨hty, hrep⟩)
        rw [if_neg hreq, if_neg hrep]
    case ipv6 => cases f.isIpv6Multicast <;> rfl
    all_goals rfl

/-- The flow-mod installed for a packet-in's flow: added, with priority and cookie 9, idle for a
minute, never expiring otherwise, matching the flow, sending to the port and applied to the
packet's buffer when the switch holds it. -/
theorem installFlow_eq {xid : UInt32} {p : PacketIn} {f : Flow} (h : Flow.ofPacketIn xid p = .ok f)
    (port : PseudoPort) :
    installFlow f port =
      { command := .add, pattern := f.pattern, priority := 9, actions := [.output port],
        cookie := 9, idleTimeout := .expiresAfter 60, hardTimeout := .permanent, flags := 0,
        applyToPacket := if p.payload.bufferId = noBuffer then none else some p.payload.bufferId,
        outPort := some port } := by
  rw [installFlow, Flow.ofPacketIn_bufferId h]
  rfl

theorem LearningTable.lookup_ne_table (t : LearningTable) (mac : MacAddr) :
    t.lookup mac ≠ .table := by
  unfold LearningTable.lookup
  split <;> simp

namespace Session

variable {σ α : Type}

/-! ### Writing the answer -/

theorem run_send_bind_ok {xid : UInt32} {m : Message} {k : Unit → SessionM σ α} {s : Session}
    (w : σ) {bytes : List UInt8} (hencode : Message.encode s.version xid m = .ok bytes)
    (hworks : s.link.writeFails = false) :
    (send xid m >>= k).run.run (s, w) = (k ()).run.run ({ s with
      journal := ⟨.trace, "Write " ++ m.code.name ++ ":\n" ++ Text.hexDump bytes⟩ :: s.journal,
      link := s.link.write bytes }, w) := by
  have hsend := run_send (σ := σ) xid m s w
  rw [hencode] at hsend
  simp only [hworks, Bool.false_eq_true, if_false] at hsend
  exact run_bind_ok hsend

theorem run_send_bind_error {xid : UInt32} {m : Message} {k : Unit → SessionM σ α} {s : Session}
    (w : σ) {e : WireError} (hencode : Message.encode s.version xid m = .error e) :
    (send xid m >>= k).run.run (s, w) = (.error e, (s, w)) := by
  have hsend := run_send (σ := σ) xid m s w
  rw [hencode] at hsend
  exact run_bind_error hsend

/-- The policy never sends to the flow table: its port is a learned number or everywhere. -/
theorem answer_outputsToTable (t : LearningTable) (p : PacketIn) (flow? : Option Flow) :
    (answer t p flow?).outputsToTable = false := by
  cases flow? with
  | none => rfl
  | some f =>
    rw [answer_eq]
    split
    · simp only [Message.outputsToTable, FlowMod.outputsToTableSome, installFlow, List.any_cons,
        List.any_nil, Bool.or_false, Bool.eq_false_iff]
      exact fun h => t.lookup_ne_table f.dlDst (Action.output.inj (FlowMod.outputsToTable_iff.1 h))
    · rfl

/-! ### Flows of readable frames -/

theorem flowOf?_of_not_truncation {xid : UInt32} {p : PacketIn}
    (h : ∀ what needed got, Flow.ofPacketIn xid p ≠ .error (.truncated what needed got)) :
    ∃ flow?, flowOf? xid p = .ok flow? := by
  unfold flowOf?
  rcases hflow : Flow.ofPacketIn xid p with e | f
  · rcases Flow.ofPacketIn_error_cases hflow with ⟨what, needed, got, rfl⟩ | ⟨t, rfl⟩
    · exact absurd hflow (h what needed got)
    · exact ⟨none, rfl⟩
  · exact ⟨some f, rfl⟩

theorem flowOf?_eq_some {xid : UInt32} {p : PacketIn} {flow? : Option Flow}
    (h : flowOf? xid p = .ok flow?) {f : Flow} (hf : Flow.ofPacketIn xid p = .ok f) :
    flow? = some f := by
  rw [flowOf?, hf] at h
  exact (Except.ok.inj h).symm

theorem flowOf?_eq_none {xid : UInt32} {p : PacketIn} {flow? : Option Flow}
    (h : flowOf? xid p = .ok flow?) {t : UInt16}
    (ht : Flow.ofPacketIn xid p = .error (.unknownEtherType t)) : flow? = none := by
  rw [flowOf?, ht] at h
  exact (Except.ok.inj h).symm

theorem ofPacketIn_of_flowOf?_some {xid : UInt32} {p : PacketIn} {f : Flow}
    (h : flowOf? xid p = .ok (some f)) : Flow.ofPacketIn xid p = .ok f := by
  rcases hflow : Flow.ofPacketIn xid p with e | f'
  · rcases Flow.ofPacketIn_error_cases hflow with ⟨what, needed, got, rfl⟩ | ⟨t, rfl⟩ <;>
    · rw [flowOf?, hflow] at h
      cases h
  · obtain rfl := Option.some.inj (flowOf?_eq_some h hflow)
    rfl

/-! ### Handling a packet-in -/

/-- What handling the packet-in `p`, read from `body` under `h`, does to the session `s` and the
variant's state `w`, by the learning switch's rules. There is a table after learning: it sends the
frame's sender to the port the packet came in on and every other address where the old table
sent it, or it is the old table when the frame's ethernet type is unknown. There is an answer:
for an IPv4 frame or an ARP reply, the flow-mod that adds the frame's flow towards the port
that table gives for its destination; for every other frame a flood of the packet. A frame the
switch sent on purpose is handed to the variant. Then the answer is written with the packet-in's
transaction id, the table and the log being all else that changed, and the variant gets its
chance to inject; or, when the answer is too long for the length field, nothing is written and
the message fails with the encoder's refusal. -/
def AnswersPacketIn (v : Variant σ) (s : Session) (w : σ) (h : Header) (body : List UInt8)
    (p : PacketIn) : Prop :=
  ∃ (table : LearningTable) (msg : Message) (j : List LogLine),
    (∀ f, Flow.ofPacketIn h.xid p = .ok f →
      (∀ mac, table.lookup mac = if mac = f.dlSrc then .physical p.port else s.table.lookup mac) ∧
      msg = if f.Installs then
          .flowMod
            { command := .add, pattern := f.pattern, priority := 9,
              actions := [.output (table.lookup f.dlDst)], cookie := 9,
              idleTimeout := .expiresAfter 60, hardTimeout := .permanent, flags := 0,
              applyToPacket :=
                if p.payload.bufferId = noBuffer then none else some p.payload.bufferId,
              outPort := some (table.lookup f.dlDst) }
        else
          .packetOut { payload := p.payload, portId := some p.port, actions := [.output .flood] }) ∧
    (∀ t, Flow.ofPacketIn h.xid p = .error (.unknownEtherType t) → table = s.table ∧
      msg = .packetOut { payload := p.payload, portId := some p.port, actions := [.output .flood] }) ∧
    (msg.size ≤ Message.maxSize → ∃ bytes, Message.encode s.version h.xid msg = .ok bytes ∧
      (dispatch v h body).run.run (s, w) = (inject v).run.run
        ({ s with table := table, journal := j, link := s.link.write bytes },
          if p.reason = .explicitSend then (v.capture p.payload.data w).1 else w)) ∧
    (Message.maxSize < msg.size → (dispatch v h body).run.run (s, w) =
      (.error (.malformed "message" (toString msg.size ++ " bytes exceeds the length field")),
        ({ s with table := table, journal := j },
          if p.reason = .explicitSend then (v.capture p.payload.data w).1 else w)))

/-- An established session on a working link handles every packet-in whose frame it can read
by the learning switch's rules, `AnswersPacketIn`: it learns the sender unless the ethernet type
is unknown, hands a frame sent on purpose to the variant, writes the policy's answer first,
with the packet-in's transaction id, and then lets the variant inject, unless the answer is too
long to write. -/
theorem dispatch_packetIn_answer (v : Variant σ) {s : Session} (w : σ) {h : Header}
    {body : List UInt8} {p : PacketIn} (hs : s.state = .established)
    (hworks : s.link.writeFails = false) (hparse : Message.parse h body = .ok (.packetIn p))
    (hframe : ∀ what needed got, Flow.ofPacketIn h.xid p ≠ .error (.truncated what needed got)) :
    AnswersPacketIn v s w h body p := by
  obtain ⟨flow?, hflow⟩ := flowOf?_of_not_truncation hframe
  obtain ⟨j, hrun⟩ := packetIn_run_of_ok v h.xid p hflow s w
  rw [← dispatch_run_packetIn v s w hparse hs] at hrun
  have hlearned : ∀ f, Flow.ofPacketIn h.xid p = .ok f → ∀ mac,
      (learnFrom s.table flow?).lookup mac =
        if mac = f.dlSrc then .physical p.port else s.table.lookup mac := by
    intro f hf mac
    rw [flowOf?_eq_some hflow hf, learnFrom, LearningTable.lookup_learn, Flow.ofPacketIn_inPort hf]
  have hinstalled : ∀ f, Flow.ofPacketIn h.xid p = .ok f →
      answer (learnFrom s.table flow?) p flow? = if f.Installs then
        .flowMod (installFlow f ((learnFrom s.table flow?).lookup f.dlDst))
      else .packetOut (flood p) := by
    intro f hf
    rw [flowOf?_eq_some hflow hf, answer_eq]
  have hunknown : ∀ t, Flow.ofPacketIn h.xid p = .error (.unknownEtherType t) →
      learnFrom s.table flow? = s.table ∧ answer (learnFrom s.table flow?) p flow? =
        .packetOut (flood p) := by
    intro t ht
    rw [flowOf?_eq_none hflow ht]
    exact ⟨rfl, rfl⟩
  refine ⟨learnFrom s.table flow?, answer (learnFrom s.table flow?) p flow?, ?_⟩
  by_cases hsize : (answer (learnFrom s.table flow?) p flow?).size ≤ Message.maxSize
  · obtain ⟨bytes, hencode⟩ : ∃ bytes, Message.encode s.version h.xid
        (answer (learnFrom s.table flow?) p flow?) = .ok bytes := by
      rcases hcode : Message.encode s.version h.xid (answer (learnFrom s.table flow?) p flow?)
        with e | bytes
      · obtain hbig | htable := (Message.encode_eq_error_iff _ _ _).1 ⟨e, hcode⟩
        · exact absurd hbig (Nat.not_lt.2 hsize)
        · rw [answer_outputsToTable] at htable
          cases htable
      · exact ⟨bytes, rfl⟩
    refine ⟨⟨.trace, "Write " ++ (answer (learnFrom s.table flow?) p flow?).code.name ++ ":\n" ++
      Text.hexDump bytes⟩ :: j, fun f hf => ⟨hlearned f hf, ?_⟩, hunknown,
      fun _ => ⟨bytes, hencode, ?_⟩, fun hbig => absurd hbig (Nat.not_lt.2 hsize)⟩
    · rw [hinstalled f hf, installFlow_eq hf]
      rfl
    · rw [hrun]
      exact run_send_bind_ok _ hencode hworks
  · have hencode : Message.encode s.version h.xid (answer (learnFrom s.table flow?) p flow?) =
        .error (.malformed "message" (toString (answer (learnFrom s.table flow?) p flow?).size ++
          " bytes exceeds the length field")) := by
      rw [Message.encode_eq, if_pos (Nat.lt_of_not_le hsize)]
    refine ⟨j, fun f hf => ⟨hlearned f hf, ?_⟩, hunknown, fun hfits => absurd hfits hsize,
      fun _ => ?_⟩
    · rw [hinstalled f hf, installFlow_eq hf]
      rfl
    · rw [hrun]
      exact run_send_bind_error _ hencode

/-- The reply of `bb:bb:bb:bb:bb:02` to an ARP request, received on port 2 and held in no
buffer. -/
def arpReplyIn : PacketIn :=
  ⟨.notBuffered arpReplyFrame, 42, 2, .noMatch⟩

theorem arp_reply_answered :
    afterFeatures.state = .established ∧ afterFeatures.link.writeFails = false ∧
      Message.parse ⟨1, 10, 60, 3⟩ arpReplyIn.encode = .ok (.packetIn arpReplyIn) ∧
      (∀ what needed got, Flow.ofPacketIn 3 arpReplyIn ≠ .error (.truncated what needed got)) ∧
      AnswersPacketIn Variant.plain afterFeatures () ⟨1, 10, 60, 3⟩ arpReplyIn.encode
        arpReplyIn := by
  have hparse : Message.parse ⟨1, 10, 60, 3⟩ arpReplyIn.encode = .ok (.packetIn arpReplyIn) := rfl
  obtain ⟨f, hf⟩ : ∃ f, Flow.ofPacketIn 3 arpReplyIn = .ok f := ⟨_, rfl⟩
  have hframe : ∀ what needed got, Flow.ofPacketIn 3 arpReplyIn ≠
      .error (.truncated what needed got) := fun _ _ _ h => by
    rw [hf] at h
    cases h
  exact ⟨rfl, rfl, hparse, hframe, dispatch_packetIn_answer Variant.plain () rfl rfl hparse hframe⟩

/-- A RARP broadcast of 65512 bytes that an established session reads is answered by no message
at all: its flood is a byte too long for the length field. -/
theorem overlong_flood_writes_nothing :
    afterFeatures.state = .established ∧ afterFeatures.link.writeFails = false ∧
      Message.parse ⟨1, 10, 65530, 2⟩ longRarpBody = .ok (.packetIn longRarpIn) ∧
      Flow.ofPacketIn 2 longRarpIn = .ok rarpFlow ∧
      ((dispatch Variant.plain ⟨1, 10, 65530, 2⟩ longRarpBody).run.run
        (afterFeatures, ())).2.1.link.sentRev = afterFeatures.link.sentRev := by
  have hflow : Flow.ofPacketIn 2 longRarpIn = .ok rarpFlow :=
    ofPacketIn_of_flowOf?_some flowOf_longRarpIn
  obtain ⟨j, hrun⟩ := packetIn_run_of_ok Variant.plain (⟨1, 10, 65530, 2⟩ : Header).xid
    longRarpIn flowOf_longRarpIn afterFeatures ()
  refine ⟨rfl, rfl, parse_longRarpBody, hflow, ?_⟩
  rw [dispatch_run_packetIn Variant.plain afterFeatures () parse_longRarpBody rfl, hrun,
    show answer (learnFrom afterFeatures.table (some rarpFlow)) longRarpIn (some rarpFlow) =
      .packetOut (flood longRarpIn) from rfl,
    run_send_bind_error _ (encode_flood_longRarpIn _ _)]

end Session

end OpenFlow
