import OpenFlow.Proofs.Effects
import OpenFlow.Proofs.Grammar

/-!
# What a session writes

Every byte string a session writes reads back through the codec as one message whose ports are
valid numbers and which sends nothing to the flow table (`Message.ReadsBack`), as long as the
port numbers the session takes from outside allow it (`Session.run_writes_decodable`): the
in-port of every packet-in it learns a host from is a valid number other than the flow table's
(`PseudoPort.IsFlowTarget`), and the variant injects frames out of valid numbers only. The
learning table hands a learned number on to a flow-mod unchecked, so a host learned on `0xfff9`
is answered by a flow-mod that reads back with an output to the flow table, and one learned on a
number between the physical and the reserved ones by a flow-mod that does not read back at all.

A port written by its number reads back as the canonical port of that number
(`PseudoPort.exists_canonical`), so a flow-mod or packet-out is written as one of canonical
ports and reads back by the codec's round trip. The run is followed message by message
(`Session.dispatchAll`) with the invariant `Session.Readable`: the table holds flow targets only
and everything written so far reads back. Handling a message keeps it
(`Session.dispatch_readable`), since its only writes are an echo, the policy's answer on such a
table and the variant's injection; `Session.Writes`, a step property closed under binding, says
what a step may write.
-/

namespace OpenFlow

/-! ### Ports by their numbers -/

namespace PseudoPort

theorem Canonical.isValidNumber {p : PseudoPort} (hp : p.Canonical) : IsValidNumber p.number := by
  cases p with
  | physical n => exact .inl hp
  | _ => exact .inr (by simp only [number]; decide)

/-- A number read as a port with no byte limit is read as a canonical port written by that
number. -/
theorem make_canonical {n : UInt16} {q : PseudoPort} (h : make n 0 = .ok q) :
    q.Canonical ∧ q.number = n ∧ q.writtenMaxLen = 0 := by
  unfold make at h
  repeat' split at h
  all_goals cases h
  all_goals exact ⟨by simp_all [Canonical], by simp_all [number], rfl⟩

/-- Every valid number is written by a canonical port with no byte limit. -/
theorem exists_canonical {n : UInt16} (hn : IsValidNumber n) :
    ∃ q : PseudoPort, q.Canonical ∧ q.number = n ∧ q.writtenMaxLen = 0 := by
  obtain ⟨q, hq⟩ := (make_succeeds_iff n 0).2 hn
  exact ⟨q, make_canonical hq⟩

/-- A number a flow may send to: a valid one other than the flow table's. -/
def IsFlowTarget (n : UInt16) : Prop :=
  IsValidNumber n ∧ n ≠ table.number

instance : DecidablePred IsFlowTarget := fun _ => inferInstanceAs (Decidable (_ ∧ _))

end PseudoPort

namespace Action

/-- The port an action sends to. -/
def port : Action → PseudoPort
  | .output p => p

theorem port_canonical {a : Action} (ha : a.Canonical) : a.port.Canonical := by
  cases a
  exact ha

/-- An output is written by its port's number and byte limit alone. -/
theorem encode_output_congr {p q : PseudoPort} (hnum : p.number = q.number)
    (hmax : p.writtenMaxLen = q.writtenMaxLen) : (output p).encode = (output q).encode := by
  rw [encode_output, encode_output, hnum, hmax]

@[simp] theorem controllerLast_singleton (a : Action) : controllerLast [a] = [a] := by
  cases h : a.toController <;> simp [controllerLast, h]

end Action

/-! ### Reading back what is written -/

/-- A packet-out whose actions read back is read back with them, whatever its payload. -/
theorem PacketOut.decode_encode_actions (p : PacketOut) (hacts : ∀ a ∈ p.actions, a.Canonical)
    (hsize : Action.size * p.actions.length ≤ Message.maxSize) :
    ∃ q, decode p.encode = .ok q ∧ q.actions = p.actions := by
  have hlen : (word16 ((Action.size * p.actions.length).toUInt16 >>> 8).toUInt8
      (Action.size * p.actions.length).toUInt16.toUInt8).toNat =
        Action.size * p.actions.length := by
    rw [word16_bytes, Message.toUInt16_toNat_of_le hsize]
  simp only [encode, be32, be16, List.cons_append, List.nil_append, decode, hlen]
  rw [if_neg (by simp), List.take_left' (Action.encodeAll_length _),
    Action.decodeAll_encodeAll _ hacts]
  exact ⟨_, rfl, rfl⟩

namespace Message

/-- The ports a message names: those its actions send to, and a flow-mod's output port. -/
def ports : Message → List PseudoPort
  | packetOut p => p.actions.map Action.port
  | flowMod f => f.actions.map Action.port ++ f.outPort.toList
  | _ => []

/-- Bytes that read back as a message whose ports are valid numbers and which sends nothing to
the flow table. -/
def ReadsBack (bytes : List UInt8) : Prop :=
  ∃ h m, decode bytes = .ok (h, m) ∧ (∀ q ∈ m.ports, PseudoPort.IsValidNumber q.number) ∧
    m.outputsToTable = false

theorem ports_canonical {m : Message} (hm : m.BodyCanonical) : ∀ q ∈ m.ports, q.Canonical := by
  cases m with
  | packetOut p =>
    intro q hq
    obtain ⟨a, ha, rfl⟩ := List.mem_map.1 hq
    exact Action.port_canonical (hm.2.2.2 a ha)
  | flowMod f =>
    intro q hq
    rcases List.mem_append.1 hq with hq | hq
    · obtain ⟨a, ha, rfl⟩ := List.mem_map.1 hq
      exact Action.port_canonical (hm.2.2.2.2.2 a ha).1
    · exact hm.2.2.2.1 q (Option.mem_toList.1 hq)
  | _ => intro q hq; cases hq

theorem mem_ports_normalize {m : Message} {q : PseudoPort} (hq : q ∈ m.normalize.ports) :
    q ∈ m.ports := by
  cases m with
  | flowMod f =>
    simp only [normalize, ports, List.mem_append, List.mem_map] at hq ⊢
    rcases hq with ⟨a, ha, rfl⟩ | hq
    · exact .inl ⟨a, Action.mem_controllerLast.1 ha, rfl⟩
    · exact .inr hq
  | _ => exact hq

theorem outputsToTable_normalize (m : Message) : m.normalize.outputsToTable = m.outputsToTable := by
  cases m with
  | flowMod f => exact (Action.controllerLast_perm f.actions).any_eq
  | _ => rfl

/-- Written bytes read back through the header in front of them, as the body reads under that
header. -/
theorem decode_of_encode {v : UInt8} {x : UInt32} {m : Message} {bytes : List UInt8}
    (h : encode v x m = .ok bytes) :
    ∃ body, encodeBody m = .ok body ∧ decode bytes =
      (parse ⟨v, m.code.toByte, m.size.toUInt16, x⟩ body).map fun r =>
        (⟨v, m.code.toByte, m.size.toUInt16, x⟩, r) := by
  obtain ⟨hsize, body, hbody, rfl⟩ := encode_ok h
  refine ⟨body, hbody, ?_⟩
  let hdr : Header := ⟨v, m.code.toByte, m.size.toUInt16, x⟩
  have hhdr : hdr.encode.length = Header.size := rfl
  have hlen : hdr.length.toNat = m.size := toUInt16_toNat_of_le hsize
  have htotal : (hdr.encode ++ body).length = m.size := by
    rw [List.length_append, hhdr, encodeBody_length hbody, size]
  have hframe : (hdr.encode ++ body).take m.size = hdr.encode ++ body :=
    List.take_of_length_le (Nat.le_of_eq htotal)
  have hfits : (Decidable.decide (m.size < Header.size) || Decidable.decide (m.size < m.size)) =
      false := by
    rw [Bool.or_eq_false_iff, decide_eq_false_iff_not, decide_eq_false_iff_not, size]
    omega
  show decode (hdr.encode ++ body) = (parse hdr body).map fun r => (hdr, r)
  rw [decode, Header.decode_encode]
  simp only [except_ok_bind, hlen, hframe, htotal]
  rw [hfits, if_neg Bool.false_ne_true, List.drop_left' hhdr]
  cases parse hdr body <;> rfl

/-- Messages of one size and type whose bodies are written alike are written alike. -/
theorem encode_congr {v : UInt8} {x : UInt32} {m m' : Message} (hsize : m.size = m'.size)
    (hcode : m.code = m'.code) (hbody : encodeBody m = encodeBody m') :
    encode v x m = encode v x m' := by
  rw [encode_eq, encode_eq, hsize, hcode, hbody]

theorem readsBack_of_canonical {v : UInt8} {x : UInt32} {m : Message} {bytes : List UInt8}
    (hm : m.BodyCanonical) (h : encode v x m = .ok bytes) : ReadsBack bytes := by
  obtain ⟨body, hbody, hdecode⟩ := decode_of_encode h
  rw [parse_encodeBody ⟨(encode_ok h).1, hm⟩ rfl hbody, except_map_ok] at hdecode
  refine ⟨_, _, hdecode, fun q hq => ?_, ?_⟩
  · exact (ports_canonical hm q (mem_ports_normalize hq)).isValidNumber
  · rw [outputsToTable_normalize]
    exact outputsToTable_of_canonical hm

/-- A packet-out reads back when its actions do: its payload and in-port may come back changed,
but they name no port of an action. -/
theorem readsBack_packetOut {v : UInt8} {x : UInt32} {p : PacketOut} {bytes : List UInt8}
    (hacts : ∀ a ∈ p.actions, a.Canonical) (h : encode v x (.packetOut p) = .ok bytes) :
    ReadsBack bytes := by
  obtain ⟨body, hbody, hdecode⟩ := decode_of_encode h
  cases hbody
  have hsize : Action.size * p.actions.length ≤ maxSize := by
    have := (encode_ok h).1
    simp only [size, bodySize, PacketOut.size] at this
    omega
  obtain ⟨q, hq, hqa⟩ := p.decode_encode_actions hacts hsize
  have hcode : Header.code ⟨v, (packetOut p).code.toByte, (packetOut p).size.toUInt16, x⟩ =
      .ok .packetOut := by
    rw [Header.code, MsgCode.ofByte_toByte]
    rfl
  rw [parse, hcode, except_ok_bind] at hdecode
  dsimp only at hdecode
  rw [hq] at hdecode
  refine ⟨_, .packetOut q, hdecode, fun port hport => ?_, rfl⟩
  simp only [ports, hqa] at hport
  obtain ⟨a, ha, rfl⟩ := List.mem_map.1 hport
  exact (Action.port_canonical (hacts a ha)).isValidNumber

end Message

/-! ### Learning flow targets -/

namespace Flow

theorem withArp_inPort {f g : Flow} {frame : List UInt8} (h : f.withArp frame = .ok g) :
    g.inPort = f.inPort := by
  unfold withArp at h
  obtain ⟨_, -, h⟩ := except_ok_of_bind h
  dsimp only at h
  split at h <;> cases h <;> rfl

theorem withIpv4_inPort {f g : Flow} {frame : List UInt8} (h : f.withIpv4 frame = .ok g) :
    g.inPort = f.inPort := by
  unfold withIpv4 at h
  obtain ⟨_, -, h⟩ := except_ok_of_bind h
  simp only at h
  split at h <;> split at h <;> cases h <;> rfl

/-- A flow is learned on the port its packet came in on. -/
theorem ofPacketIn_inPort {xid : UInt32} {pi : PacketIn} {f : Flow}
    (h : ofPacketIn xid pi = .ok f) : f.inPort = pi.port := by
  unfold ofPacketIn at h
  simp only at h
  obtain ⟨_, -, h⟩ := except_ok_of_bind h
  split at h
  case' isTrue => obtain ⟨_, -, h⟩ := except_ok_of_bind h
  all_goals
    simp only [except_pure, except_ok_bind] at h
    split at h
    · rw [withArp_inPort h]
    · rw [withIpv4_inPort h]
    all_goals first
      | (cases h; rfl)
      | cases h

end Flow

namespace LearningTable

/-- A table whose hosts all sit on numbers a flow may send to. -/
def OnFlowTargets (t : LearningTable) : Prop :=
  ∀ e ∈ t.entries, PseudoPort.IsFlowTarget e.2

theorem mem_insertSorted {mac : MacAddr} {port : UInt16} {e : MacAddr × UInt16}
    {es : List (MacAddr × UInt16)} (h : e ∈ insertSorted mac port es) :
    e = (mac, port) ∨ e ∈ es := by
  fun_induction insertSorted mac port es with
  | case1 => simpa using h
  | case2 m p rest => simpa using h
  | case3 m p rest =>
    rcases List.mem_cons.1 h with h | h
    · exact .inl h
    · exact .inr (List.mem_cons_of_mem _ h)
  | case4 m p rest _ _ ih =>
    rcases List.mem_cons.1 h with h | h
    · exact .inr (h ▸ List.mem_cons_self)
    · exact (ih h).imp_right (List.mem_cons_of_mem _)

theorem learn_fst (t : LearningTable) (mac : MacAddr) (port : UInt16) :
    (t.learn mac port).1 = ⟨insertSorted mac port t.entries⟩ := by
  unfold learn
  split
  · rfl
  · split <;> rfl

theorem OnFlowTargets.learn {t : LearningTable} (ht : t.OnFlowTargets) (mac : MacAddr)
    {port : UInt16} (hport : PseudoPort.IsFlowTarget port) : (t.learn mac port).1.OnFlowTargets := by
  intro e he
  rw [learn_fst] at he
  rcases mem_insertSorted he with rfl | he
  · exact hport
  · exact ht e he

/-- Such a table sends a frame to a flow target or floods it. -/
theorem OnFlowTargets.lookup {t : LearningTable} (ht : t.OnFlowTargets) (mac : MacAddr) :
    t.lookup mac = .flood ∨ ∃ n, PseudoPort.IsFlowTarget n ∧ t.lookup mac = .physical n := by
  unfold LearningTable.lookup
  rcases hfind : t.find? mac with _ | n
  · exact .inl rfl
  · unfold find? at hfind
    obtain ⟨e, he, rfl⟩ := Option.map_eq_some_iff.1 hfind
    exact .inr ⟨e.2, ht e (List.mem_of_find?_eq_some he), rfl⟩

end LearningTable

/-! ### The policy's writes -/

theorem decide_install {f : Flow} {t : LearningTable} {port : PseudoPort}
    (h : decide f t = .install port) : port = t.lookup f.dlDst := by
  unfold decide at h
  repeat' split at h
  all_goals first
    | exact (Forwarding.install.inj h).symm
    | cases h

/-- A flow-mod towards a canonical port other than the flow table, with no byte limit, reads
back. -/
theorem installFlow_bodyCanonical (f : Flow) {port : PseudoPort} (hcanon : port.Canonical)
    (htable : port ≠ .table) (hmax : port.writtenMaxLen = 0) :
    (Message.flowMod (installFlow f port)).BodyCanonical := by
  refine ⟨by simp [installFlow, flowIdleTimeout], by simp [installFlow], ?_, ?_, ?_, ?_⟩
  · simp only [installFlow]
    split <;> simp_all
  · intro q hq
    cases hq
    exact hcanon
  · intro n hn
    cases hn
    exact hmax
  · intro a ha
    simp only [installFlow, List.mem_singleton] at ha
    subst ha
    exact ⟨hcanon, fun h => htable (Action.output.inj h)⟩

/-- Flow-mods towards ports written alike, neither of them the flow table, are written alike. -/
theorem encode_installFlow_congr (f : Flow) {p q : PseudoPort} (hnum : p.number = q.number)
    (hmax : p.writtenMaxLen = q.writtenMaxLen) (hp : p ≠ .table) (hq : q ≠ .table) (v : UInt8)
    (x : UInt32) :
    Message.encode v x (.flowMod (installFlow f p)) =
      Message.encode v x (.flowMod (installFlow f q)) := by
  have hkept : ∀ r : PseudoPort, r ≠ .table → (installFlow f r).outputsToTableSome = false := by
    intro r hr
    simp only [FlowMod.outputsToTableSome, installFlow, List.any_cons, List.any_nil,
      Bool.or_false]
    exact Bool.eq_false_iff.2 fun h => hr (Action.output.inj (FlowMod.outputsToTable_iff.1 h))
  refine Message.encode_congr rfl rfl ?_
  rw [Message.encodeBody, Message.encodeBody, FlowMod.encode_eq, FlowMod.encode_eq, hkept p hp,
    hkept q hq]
  simp only [Bool.false_eq_true, if_false, FlowMod.fixedBytes, FlowMod.fieldBytes, installFlow,
    Option.map_some, Option.getD_some, hnum, Action.controllerLast_singleton,
    Action.encodeAll_cons, Action.encodeAll_nil, Action.encode_output_congr hnum hmax]

/-- Packet-outs with one output, to ports written alike, are written alike. -/
theorem encode_packetOut_congr (payload : Payload) (portId : Option UInt16) {p q : PseudoPort}
    (hnum : p.number = q.number) (hmax : p.writtenMaxLen = q.writtenMaxLen) (v : UInt8)
    (x : UInt32) :
    Message.encode v x (.packetOut ⟨payload, portId, [.output p]⟩) =
      Message.encode v x (.packetOut ⟨payload, portId, [.output q]⟩) := by
  refine Message.encode_congr rfl rfl ?_
  simp only [Message.encodeBody, PacketOut.encode, Action.encodeAll_cons, Action.encodeAll_nil,
    List.length_singleton, Action.encode_output_congr hnum hmax]

/-- A flow-mod towards a flow target, or everywhere, reads back. -/
theorem readsBack_installFlow (f : Flow) {port : PseudoPort}
    (hport : port = .flood ∨ ∃ n, PseudoPort.IsFlowTarget n ∧ port = .physical n) {v : UInt8}
    {x : UInt32} {bytes : List UInt8}
    (h : Message.encode v x (.flowMod (installFlow f port)) = .ok bytes) :
    Message.ReadsBack bytes := by
  rcases hport with rfl | ⟨n, ⟨hvalid, hnt⟩, rfl⟩
  · exact Message.readsBack_of_canonical
      (installFlow_bodyCanonical f (by trivial) (by simp) rfl) h
  · obtain ⟨q, hq, hnum, hmax⟩ := PseudoPort.exists_canonical hvalid
    have htable : q ≠ .table := fun hqt => hnt (by rw [← hnum, hqt])
    have hwritten := encode_installFlow_congr f
      (show (PseudoPort.physical n).number = q.number from hnum.symm)
      (show (PseudoPort.physical n).writtenMaxLen = q.writtenMaxLen from hmax.symm)
      (by simp) htable v x
    rw [hwritten] at h
    exact Message.readsBack_of_canonical (installFlow_bodyCanonical f hq htable hmax) h

/-- A frame injected out of a valid number reads back. -/
theorem readsBack_injection {n : UInt16} (hn : PseudoPort.IsValidNumber n) (frame : List UInt8)
    {v : UInt8} {x : UInt32} {bytes : List UInt8}
    (h : Message.encode v x (.packetOut ⟨.notBuffered frame, none, [.output (.physical n)]⟩) =
      .ok bytes) :
    Message.ReadsBack bytes := by
  obtain ⟨q, hq, hnum, hmax⟩ := PseudoPort.exists_canonical hn
  rw [encode_packetOut_congr _ _ (show (PseudoPort.physical n).number = q.number from hnum.symm)
    (show (PseudoPort.physical n).writtenMaxLen = q.writtenMaxLen from hmax.symm)] at h
  refine Message.readsBack_packetOut ?_ h
  simp only [List.mem_singleton, forall_eq]
  exact hq

/-- A variant that sends frames out of valid numbers only. -/
def Variant.InjectsValid {σ : Type} (v : Variant σ) : Prop :=
  ∀ w inj, (v.injectOpportunity w).2.2 = some inj → PseudoPort.IsValidNumber inj.port

namespace Session

variable {σ α β : Type}

/-! ### What a step writes -/

/-- A step whose writes all satisfy `p`: whatever its outcome, it only puts byte strings
satisfying `p` in front of what was written before. -/
def Writes (p : List UInt8 → Prop) (m : SessionM σ α) : Prop :=
  ∀ c, ∃ new, (m.run.run c).2.1.link.sentRev = new ++ c.1.link.sentRev ∧ ∀ b ∈ new, p b

namespace Writes

variable {p : List UInt8 → Prop}

theorem pure (a : α) : Writes p (Pure.pure a : SessionM σ α) :=
  fun _ => ⟨[], rfl, by simp⟩

theorem bind {m : SessionM σ α} {k : α → SessionM σ β} (hm : Writes p m)
    (hk : ∀ a, Writes p (k a)) : Writes p (m >>= k) := by
  intro c
  obtain ⟨new, hnew, hp⟩ := hm c
  rcases hr : m.run.run c with ⟨_ | a, c₁⟩ <;> rw [hr] at hnew
  · rw [run_bind_error hr]
    exact ⟨new, hnew, hp⟩
  · rw [run_bind_ok hr]
    obtain ⟨new', hnew', hp'⟩ := hk a c₁
    refine ⟨new' ++ new, by rw [hnew', hnew, List.append_assoc], fun b hb => ?_⟩
    rcases List.mem_append.1 hb with hb | hb
    · exact hp' b hb
    · exact hp b hb

theorem log (level : Level) (text : String) :
    Writes p (Session.log level text : SessionM σ Unit) :=
  fun _ => ⟨[], rfl, by simp⟩

/-- A write puts the message's bytes in front, when the encoder takes it and the link does. -/
theorem send {xid : UInt32} {m : Message}
    (hm : ∀ v bytes, Message.encode v xid m = .ok bytes → p bytes) :
    Writes p (Session.send xid m : SessionM σ Unit) := by
  rintro ⟨s, w⟩
  rw [run_send]
  rcases hencode : Message.encode s.version xid m with e | bytes
  · exact ⟨[], rfl, by simp⟩
  · cases hwf : s.link.writeFails
    · refine ⟨[bytes], ?_, by simpa using hm _ _ hencode⟩
      simp only [Bool.false_eq_true, if_false]
      rfl
    · simp only [if_true]
      exact ⟨[], rfl, by simp⟩

end Writes

/-- A variant's injections out of valid numbers read back. -/
theorem writes_inject {v : Variant σ} (hv : v.InjectsValid) :
    Writes Message.ReadsBack (inject v) := by
  rintro ⟨s, w⟩
  unfold inject
  rw [run_hook_bind]
  rcases hi : (v.injectOpportunity w).2.2 with _ | inj
  · exact Writes.pure () _
  · exact ((Writes.log _ _).bind fun _ => Writes.send fun _ _ =>
      readsBack_injection (hv w inj hi) _) _

/-! ### Handling messages keeps what is written readable -/

theorem flowOf_inPort {xid : UInt32} {p : PacketIn} {f : Flow}
    (h : flowOf? xid p = .ok (some f)) : f.inPort = p.port := by
  unfold flowOf? at h
  rcases hflow : Flow.ofPacketIn xid p with e | f'
  · rw [hflow] at h
    cases e with
    | unknownEtherType t => cases h
    | _ => cases h
  · rw [hflow] at h
    cases h
    exact Flow.ofPacketIn_inPort hflow

theorem learnFrom_onFlowTargets {t : LearningTable} (ht : t.OnFlowTargets) {xid : UInt32}
    {p : PacketIn} {flow? : Option Flow} (hflow : flowOf? xid p = .ok flow?)
    (hport : PseudoPort.IsFlowTarget p.port) : (learnFrom t flow?).OnFlowTargets := by
  cases flow? with
  | none => exact ht
  | some f => exact ht.learn f.dlSrc (flowOf_inPort hflow ▸ hport)

/-- The policy's answer on a table of flow targets reads back. -/
theorem answer_readsBack {t : LearningTable} (ht : t.OnFlowTargets) (p : PacketIn)
    (flow? : Option Flow) {v : UInt8} {x : UInt32} {bytes : List UInt8}
    (h : Message.encode v x (answer t p flow?) = .ok bytes) : Message.ReadsBack bytes := by
  have hflood : ∀ a ∈ (flood p).actions, a.Canonical := by
    simp only [flood, List.mem_singleton, forall_eq]
    trivial
  cases flow? with
  | none => exact Message.readsBack_packetOut hflood h
  | some f =>
    rw [answer] at h
    rcases hd : decide f t with port | _ | _ <;> rw [hd] at h
    · have hport := ht.lookup f.dlDst
      rw [← decide_install hd] at hport
      exact readsBack_installFlow f hport h
    all_goals exact Message.readsBack_packetOut hflood h

/-- A session that has learned hosts on flow targets only and whose every write reads back. -/
structure Readable (s : Session) : Prop where
  table : s.table.OnFlowTargets
  written : ∀ b ∈ s.link.sentRev, Message.ReadsBack b

/-- A step that keeps the table and writes only what reads back keeps a session readable. -/
theorem Readable.step {m : SessionM σ α} {c : Session × σ} (hc : Readable c.1)
    (hkeep : Keeps Session.table m) (hwrites : Writes Message.ReadsBack m) :
    Readable (m.run.run c).2.1 := by
  obtain ⟨new, hsent, hnew⟩ := hwrites c
  refine ⟨?_, fun b hb => ?_⟩
  · show (m.run.run c).2.1.table.OnFlowTargets
    rw [hkeep c]
    exact hc.table
  · rw [hsent] at hb
    rcases List.mem_append.1 hb with hb | hb
    · exact hnew b hb
    · exact hc.written b hb

theorem greeted_readable : Readable greeted := by
  refine ⟨fun e he => ?_, fun b hb => ?_⟩
  · cases he
  simp only [greeted, List.mem_cons, List.not_mem_nil, or_false] at hb
  rcases hb with rfl | rfl
  · exact Message.readsBack_of_canonical (by trivial)
      (show Message.encode 1 0 .featuresRequest = .ok (Header.encode ⟨1, 5, 8, 0⟩) from rfl)
  · exact Message.readsBack_of_canonical (by trivial)
      (show Message.encode 1 0 .hello = .ok (Header.encode ⟨1, 0, 8, 0⟩) from rfl)

/-- Handling a packet-in that came in on a flow target keeps a session readable: it learns that
port, and answers by a table of flow targets. -/
theorem packetIn_readable (v : Variant σ) (hv : v.InjectsValid) (xid : UInt32) {p : PacketIn}
    (hport : PseudoPort.IsFlowTarget p.port) {s : Session} (w : σ) (hs : Readable s) :
    Readable ((packetIn v xid p).run.run (s, w)).2.1 := by
  rcases hflow : flowOf? xid p with e | flow?
  · rw [packetIn_run_of_error v xid p hflow]
    exact hs
  · obtain ⟨j, hrun⟩ := packetIn_run_of_ok v xid p hflow s w
    have ht : (learnFrom s.table flow?).OnFlowTargets :=
      learnFrom_onFlowTargets hs.table hflow hport
    rw [hrun]
    exact Readable.step ⟨ht, hs.written⟩
      ((Keeps.send blind_table _ _).bind fun _ => Keeps.inject blind_table v)
      ((Writes.send fun _ _ => answer_readsBack ht p flow?).bind fun _ => writes_inject hv)

/-- Handling a message keeps a session readable, when the message, if a packet-in, came in on a
flow target. -/
theorem dispatch_readable (v : Variant σ) (hv : v.InjectsValid) (h : Header) (body : List UInt8)
    (hin : ∀ p, Message.parse h body = .ok (.packetIn p) → PseudoPort.IsFlowTarget p.port)
    {s : Session} (w : σ) (hs : Readable s) : Readable ((dispatch v h body).run.run (s, w)).2.1 := by
  rcases hparse : Message.parse h body with e | m
  · rw [dispatch_run_of_parse_error v h body hparse]
    exact hs
  cases m with
  | hello =>
    obtain ⟨j, hrun⟩ := dispatch_run_hello v s w hparse
    rw [hrun]
    exact ⟨hs.table, hs.written⟩
  | error r =>
    rw [dispatch_run_of_errorReport v h body hparse]
    exact hs
  | echoRequest d =>
    rw [dispatch_run_echoRequest v s w hparse]
    exact Readable.step hs (Keeps.send blind_table _ _)
      (Writes.send fun _ _ => Message.readsBack_of_canonical trivial)
  | featuresReply f =>
    by_cases hconn : s.state = .connecting
    · rw [dispatch_run_featuresReply_early v s w hparse hconn]
      exact ⟨hs.table, hs.written⟩
    · obtain ⟨j, hrun⟩ := dispatch_run_featuresReply v s w hparse hconn
      rw [hrun]
      exact ⟨hs.table, hs.written⟩
  | packetIn p =>
    by_cases hest : s.state = .established
    · rw [dispatch_run_packetIn v s w hparse hest]
      exact packetIn_readable v hv h.xid (hin p hparse) w hs
    · rw [dispatch_run_packetIn_early v s w hparse hest]
      exact ⟨hs.table, hs.written⟩
  | _ =>
    rw [dispatch_run_of_not_handled v s w hparse rfl]
    exact ⟨hs.table, hs.written⟩

/-- Handling messages one after another keeps a session readable, when the packet-ins among them
came in on flow targets. -/
theorem dispatchAll_readable (v : Variant σ) (hv : v.InjectsValid)
    (msgs : List (Header × List UInt8)) (stop : WireError)
    (hin : ∀ m ∈ msgs, ∀ p, Message.parse m.1 m.2 = .ok (.packetIn p) →
      PseudoPort.IsFlowTarget p.port)
    {s : Session} (w : σ) (hs : Readable s) : Readable (dispatchAll v msgs stop (s, w)).2.1 := by
  induction msgs generalizing s w with
  | nil => exact ⟨hs.table, hs.written⟩
  | cons m msgs ih =>
    obtain ⟨h, body⟩ := m
    have hstep := dispatch_readable v hv h body (hin _ List.mem_cons_self) w hs
    have hrest := fun m hm => hin m (List.mem_cons_of_mem _ hm)
    rw [dispatchAll]
    rcases hd : (dispatch v h body).run.run (s, w) with ⟨_ | ⟨⟩, s', w'⟩ <;> rw [hd] at hstep
    · dsimp only
      split
      · exact ⟨hstep.table, hstep.written⟩
      · exact ih hrest w' hstep
    · exact ih hrest w' hstep

/-- Every byte string a run writes reads back through the codec as one message whose ports are
valid numbers and which sends nothing to the flow table, provided every packet-in of the input
came in on a valid number other than the flow table's and the variant injects frames out of
valid numbers only. -/
theorem run_writes_decodable (v : Variant σ) (hv : v.InjectsValid) (input : List UInt8)
    (w : σ)
    (hin : ∀ m ∈ (splitMessages input).1, ∀ p, Message.parse m.1 m.2 = .ok (.packetIn p) →
      PseudoPort.IsFlowTarget p.port) :
    ∀ b ∈ ((run v).run.run ({ link := { pending := input } }, w)).2.1.link.sentRev,
      Message.ReadsBack b := by
  obtain ⟨-, hclear, -⟩ := run_endAlike v input w
  have hend := dispatchAll_readable v hv _ (splitMessages input).2 hin w greeted_readable
  have hsent := congrArg (fun s : Session => s.link.sentRev) hclear
  intro b hb
  exact hend.written b (hsent ▸ hb)

/-! ### A stream of whole messages -/

/-- A header whose length field counts its body is split off with that body. -/
theorem splitMessage_encode {h : Header} {body rest : List UInt8}
    (hlen : h.length.toNat = Header.size + body.length) :
    splitMessage (h.encode ++ body ++ rest) = .ok ((h, body), rest) := by
  obtain ⟨v, t, len, x⟩ := h
  have hbody : Header.bodyLength ⟨v, t, len, x⟩ = body.length := by
    simp only [Header.bodyLength] at hlen ⊢
    omega
  simp only [Header.encode, be16, be32, List.cons_append, List.nil_append, splitMessage,
    word16_bytes, word32_bytes]
  rw [splitBody, if_neg (by omega), if_neg (by rw [hbody, List.length_append]; omega), hbody,
    List.take_left, List.drop_left]

/-- Whole messages one after the other split into those messages, until the input ends. -/
theorem splitMessages_flatMap {msgs : List (Header × List UInt8)}
    (h : ∀ m ∈ msgs, m.1.length.toNat = Header.size + m.2.length) :
    splitMessages (msgs.flatMap fun m => m.1.encode ++ m.2) =
      (msgs, .transportFailure .inputEnded) := by
  induction msgs with
  | nil => exact splitMessages_of_error rfl
  | cons m msgs ih =>
    rw [List.flatMap_cons, splitMessages_of_ok (splitMessage_encode (h m List.mem_cons_self)),
      ih fun m hm => h m (List.mem_cons_of_mem _ hm)]

/-- An ARP request from `aa:aa:aa:aa:aa:01` for `10.0.0.2`, broadcast. -/
def arpRequestFrame : List UInt8 :=
  [0xff, 0xff, 0xff, 0xff, 0xff, 0xff, 0xaa, 0xaa, 0xaa, 0xaa, 0xaa, 0x01, 0x08, 0x06,
    0x00, 0x01, 0x08, 0x00, 0x06, 0x04, 0x00, 0x01, 0xaa, 0xaa, 0xaa, 0xaa, 0xaa, 0x01,
    0x0a, 0x00, 0x00, 0x01, 0x00, 0x00, 0x00, 0x00, 0x00, 0x00, 0x0a, 0x00, 0x00, 0x02]

/-- The reply to it from `bb:bb:bb:bb:bb:02`. -/
def arpReplyFrame : List UInt8 :=
  [0xaa, 0xaa, 0xaa, 0xaa, 0xaa, 0x01, 0xbb, 0xbb, 0xbb, 0xbb, 0xbb, 0x02, 0x08, 0x06,
    0x00, 0x01, 0x08, 0x00, 0x06, 0x04, 0x00, 0x02, 0xbb, 0xbb, 0xbb, 0xbb, 0xbb, 0x02,
    0x0a, 0x00, 0x00, 0x02, 0xaa, 0xaa, 0xaa, 0xaa, 0xaa, 0x01, 0x0a, 0x00, 0x00, 0x01]

/-- A features reply with no ports, then the request as a packet-in from the switch's local port
and the reply on port 2: the reply is answered by a flow-mod towards the local port. -/
def arpExchange : List (Header × List UInt8) :=
  [(⟨1, 6, 32, 1⟩, List.replicate 24 0),
    (⟨1, 10, 60, 2⟩, (PacketIn.mk (.notBuffered arpRequestFrame) 42 0xfffe .noMatch).encode),
    (⟨1, 10, 60, 3⟩, (PacketIn.mk (.notBuffered arpReplyFrame) 42 2 .noMatch).encode)]

theorem arp_exchange_writes_decodable :
    (Variant.plain : Variant Unit).InjectsValid ∧
      (∀ m ∈ (splitMessages (arpExchange.flatMap fun m => m.1.encode ++ m.2)).1, ∀ p,
        Message.parse m.1 m.2 = .ok (.packetIn p) → PseudoPort.IsFlowTarget p.port) ∧
      ∀ b ∈ ((run (Variant.plain : Variant Unit)).run.run
          ({ link := { pending := arpExchange.flatMap fun m => m.1.encode ++ m.2 } }, ())).2.1.link.sentRev,
        Message.ReadsBack b := by
  have hv : (Variant.plain : Variant Unit).InjectsValid := fun _ _ h => by cases h
  have hin : ∀ m ∈ (splitMessages (arpExchange.flatMap fun m => m.1.encode ++ m.2)).1, ∀ p,
      Message.parse m.1 m.2 = .ok (.packetIn p) → PseudoPort.IsFlowTarget p.port := by
    rw [splitMessages_flatMap (by decide)]
    intro m hm p hp
    simp only [arpExchange, List.mem_cons, List.not_mem_nil, or_false] at hm
    rcases hm with rfl | rfl | rfl
    · cases hp
    all_goals
      cases hp
      decide
  exact ⟨hv, hin, run_writes_decodable Variant.plain hv _ () hin⟩

end Session

end OpenFlow
