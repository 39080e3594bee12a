import OpenFlow.Proofs.Writes

/-!
# Written bytes are a fixed point of reading and writing

A message that was written reads back as a message that is written as the same bytes
(`Message.reencode_decoded_eq`). This holds for every message whose raw body stands under a type
without a constructor of its own, whose port names keep NUL-free UTF-8 in their sixteen-byte
fields, and whose physical ports lie below the reserved numbers (`Message.BodyStable`).

Unlike the round trip of canonical messages, the law takes in the spellings that the wire does
not tell apart from another one: a buffer or port named by its "none" number, the frame of a
buffered packet-out (which is not written), a zero timeout, a controller byte limit on a
flow-mod's output port, a name longer than its field, and actions not yet in controller-last
order. `Message.canonicalize` spells each of them the way it reads back. It changes no written
byte (`Message.encode_canonicalize`) and what it gives is canonical, so the message read back is
`m.canonicalize.normalize` (`Message.decode_encode_eq_canonicalize`), and putting the actions in
controller-last order changes no written byte either (`Message.encode_normalize`).
-/

namespace OpenFlow

/-! ### Fields with a "none" number -/

section Sentinel

variable {α : Type} [BEq α] [LawfulBEq α]

/-- Dropping the "none" value of an optional field leaves what it writes alone. -/
theorem getD_filter_bne (o : Option α) (a : α) : (o.filter (· != a)).getD a = o.getD a := by
  cases o with
  | none => rfl
  | some b => by_cases h : b = a <;> simp [Option.filter, h]

theorem filter_bne_ne_some (o : Option α) (a : α) : o.filter (· != a) ≠ some a := by
  cases o with
  | none => simp
  | some b => by_cases h : b = a <;> simp [Option.filter, h]

end Sentinel

namespace PseudoPort

/-- The port an output-port field reads back as: the controller loses its byte limit. -/
def withoutMaxLen : PseudoPort → PseudoPort
  | controller _ => controller 0
  | p => p

theorem number_withoutMaxLen (p : PseudoPort) : p.withoutMaxLen.number = p.number := by
  cases p <;> rfl

theorem withoutMaxLen_canonical {p : PseudoPort} (hp : p.Canonical) :
    p.withoutMaxLen.Canonical := by
  cases p with
  | controller n => trivial
  | _ => exact hp

theorem eq_zero_of_withoutMaxLen {p : PseudoPort} {n : UInt16}
    (h : p.withoutMaxLen = controller n) : n = 0 := by
  cases p with
  | controller m => exact (controller.inj h).symm
  | _ => cases h

end PseudoPort

theorem Payload.bufferId_ofWire (id : UInt32) (d : List UInt8) :
    (Payload.ofWire id d).bufferId = id := by
  by_cases h : id = noBuffer <;> simp [Payload.ofWire, Payload.bufferId, h]

theorem Payload.ofWire_canonical (id : UInt32) (d : List UInt8) :
    (Payload.ofWire id d).Canonical := by
  by_cases h : id = noBuffer
  · simp only [Payload.ofWire, if_pos h]
    trivial
  · simp only [Payload.ofWire, if_neg h]
    exact h

theorem Timeout.toWire_ofWire (n : UInt16) : (Timeout.ofWire n).toWire = n := by
  by_cases h : n = 0 <;> simp [Timeout.ofWire, Timeout.toWire, h]

theorem Timeout.ofWire_ne_zero (n : UInt16) : Timeout.ofWire n ≠ .expiresAfter 0 := by
  by_cases h : n = 0 <;> simp [Timeout.ofWire, h]

/-! ### Port names cut at sixteen bytes -/

namespace PortDesc

/-- A name whose sixteen-byte field holds NUL-free UTF-8: its first sixteen bytes, or all of
them when it has fewer, are the bytes of a string with no zero byte. -/
def NameFieldFits (name : String) : Prop :=
  ∃ s : String, s.toUTF8.toList = name.toUTF8.toList.take portNameLength ∧ 0 ∉ s.toUTF8.toList

section FieldName

variable {name s : String} (hs : s.toUTF8.toList = name.toUTF8.toList.take portNameLength)
  (hzero : 0 ∉ s.toUTF8.toList)
include hs

theorem encodeName_eq_of_field :
    encodeName name = s.toUTF8.toList ++ padding (portNameLength - s.toUTF8.toList.length) := by
  rw [encodeName, hs]

theorem nameFits_of_field (hzero : 0 ∉ s.toUTF8.toList) : NameFits s :=
  ⟨hs ▸ List.length_take_le _ _, hzero⟩

include hzero

theorem decodeName_encodeName_eq_field : decodeName (encodeName name) = s := by
  have hpos : ∀ b ∈ s.toUTF8.toList, (b != 0) = true := by
    intro b hb
    simp only [bne_iff_ne, ne_eq]
    rintro rfl
    exact hzero hb
  rw [encodeName_eq_of_field hs, decodeName, List.takeWhile_append_of_pos hpos, padding,
    List.takeWhile_replicate, if_neg (by decide), List.append_nil, Text.stringOfUtf8Lossy_toUTF8]

theorem encodeName_field : encodeName s = encodeName name := by
  have hlen : s.toUTF8.toList.length ≤ portNameLength := (nameFits_of_field hs hzero).1
  rw [encodeName_eq_of_field hs, encodeName, List.take_of_length_le hlen]

end FieldName

/-- A port description with its name as its field reads back. -/
def canonicalize (p : PortDesc) : PortDesc :=
  { p with name := decodeName (encodeName p.name) }

theorem canonicalize_nameFits {p : PortDesc} (hp : NameFieldFits p.name) :
    NameFits p.canonicalize.name := by
  obtain ⟨s, hs, hzero⟩ := hp
  rw [canonicalize, decodeName_encodeName_eq_field hs hzero]
  exact nameFits_of_field hs hzero

theorem encode_canonicalize {p : PortDesc} (hp : NameFieldFits p.name) :
    p.canonicalize.encode = p.encode := by
  obtain ⟨s, hs, hzero⟩ := hp
  simp only [encode, canonicalize, decodeName_encodeName_eq_field hs hzero,
    encodeName_field hs hzero]

end PortDesc

/-! ### Bodies spelled as they read back -/

namespace SwitchFeatures

/-- Features with every port name as its field reads back. -/
def canonicalize (f : SwitchFeatures) : SwitchFeatures :=
  { f with ports := f.ports.map PortDesc.canonicalize }

theorem size_canonicalize (f : SwitchFeatures) : f.canonicalize.size = f.size := by
  simp [canonicalize, size]

theorem encode_canonicalize {f : SwitchFeatures} (h : ∀ p ∈ f.ports, PortDesc.NameFieldFits p.name) :
    f.canonicalize.encode = f.encode := by
  have hports : (f.ports.map PortDesc.canonicalize).map PortDesc.encode =
      f.ports.map PortDesc.encode := by
    rw [List.map_map]
    exact List.map_congr_left fun p hp => PortDesc.encode_canonicalize (h p hp)
  simp only [encode, canonicalize, hports]

end SwitchFeatures

namespace PacketIn

/-- A packet-in whose payload is as its buffer id reads back. -/
def canonicalize (p : PacketIn) : PacketIn :=
  { p with payload := Payload.ofWire p.payload.bufferId p.payload.data }

theorem size_canonicalize (p : PacketIn) : p.canonicalize.size = p.size := by
  simp [canonicalize, size]

theorem encode_canonicalize (p : PacketIn) : p.canonicalize.encode = p.encode := by
  simp [canonicalize, encode, Payload.bufferId_ofWire]

end PacketIn

namespace PacketOut

/-- A packet-out whose payload carries only the frame it writes and names a buffer only by a real
buffer id, with no in-port named by the "no port" number. -/
def canonicalize (p : PacketOut) : PacketOut :=
  { p with payload := Payload.ofWire p.payload.bufferId (carriedData p.payload),
           portId := p.portId.filter (· != PseudoPort.noPort) }

theorem carriedData_ofWire (p : Payload) :
    carriedData (Payload.ofWire p.bufferId (carriedData p)) = carriedData p := by
  cases p with
  | buffered id d =>
    by_cases h : id = noBuffer <;> simp [Payload.ofWire, Payload.bufferId, carriedData, h]
  | notBuffered d => simp [Payload.ofWire, Payload.bufferId, carriedData]

/-- A payload read back as buffered carries no frame. -/
theorem eq_nil_of_ofWire_buffered {p : Payload} {id : UInt32} {d : List UInt8}
    (h : Payload.ofWire p.bufferId (carriedData p) = .buffered id d) : d = [] := by
  cases p with
  | buffered b d₀ =>
    have hb' : Payload.ofWire b [] = .buffered id d := h
    unfold Payload.ofWire at hb'
    by_cases hb : b = noBuffer
    · rw [if_pos hb] at hb'
      cases hb'
    · rw [if_neg hb] at hb'
      exact (Payload.buffered.inj hb').2.symm
  | notBuffered d₀ => simp [Payload.ofWire, Payload.bufferId] at h

theorem size_canonicalize (p : PacketOut) : p.canonicalize.size = p.size := by
  simp only [canonicalize, size, carriedData_ofWire]

theorem encode_canonicalize (p : PacketOut) : p.canonicalize.encode = p.encode := by
  simp only [canonicalize, encode, carriedData_ofWire, Payload.bufferId_ofWire, getD_filter_bne]

theorem canonicalize_canonical {p : PacketOut} (hacts : ∀ a ∈ p.actions, a.Canonical) :
    p.canonicalize.Canonical :=
  ⟨Payload.ofWire_canonical _ _, fun _ _ h => eq_nil_of_ofWire_buffered h,
    filter_bne_ne_some _ _, hacts⟩

end PacketOut

namespace FlowMod

/-- A flow-mod with its timeouts, buffer and output port as their numbers read back: a zero
timeout is permanent, the "no buffer" id is none and the controller has no byte limit. -/
def canonicalize (f : FlowMod) : FlowMod :=
  { f with idleTimeout := Timeout.ofWire f.idleTimeout.toWire,
           hardTimeout := Timeout.ofWire f.hardTimeout.toWire,
           applyToPacket := f.applyToPacket.filter (· != noBuffer),
           outPort := f.outPort.map PseudoPort.withoutMaxLen }

theorem encode_canonicalize (f : FlowMod) : f.canonicalize.encode = f.encode := by
  have hout : (f.outPort.map PseudoPort.withoutMaxLen).map PseudoPort.number =
      f.outPort.map PseudoPort.number := by
    cases f.outPort <;> simp [PseudoPort.number_withoutMaxLen]
  have hfixed : f.canonicalize.fixedBytes = f.fixedBytes := by
    simp only [fixedBytes, fieldBytes, canonicalize, Timeout.toWire_ofWire, getD_filter_bne, hout]
  rw [encode_eq, encode_eq, hfixed]
  rfl

theorem canonicalize_canonical {f : FlowMod} (hacts : ∀ a ∈ f.actions, a.Canonical)
    (hport : ∀ p, f.outPort = some p → p.Canonical) (htable : f.outputsToTableSome = false) :
    f.canonicalize.Canonical := by
  refine ⟨Timeout.ofWire_ne_zero _, Timeout.ofWire_ne_zero _, filter_bne_ne_some _ _,
    fun q hq => ?_, fun n hn => ?_, fun a ha => ⟨hacts a ha, fun hat => ?_⟩⟩
  · obtain ⟨p, hp, rfl⟩ := Option.map_eq_some_iff.1 hq
    exact PseudoPort.withoutMaxLen_canonical (hport p hp)
  · obtain ⟨p, -, hpn⟩ := Option.map_eq_some_iff.1 hn
    exact PseudoPort.eq_zero_of_withoutMaxLen hpn
  · have hany : f.actions.any outputsToTable = true :=
      List.any_eq_true.2 ⟨a, ha, outputsToTable_iff.2 hat⟩
    rw [outputsToTableSome] at htable
    rw [htable] at hany
    cases hany

end FlowMod

/-! ### Actions in controller-last order -/

theorem Action.controllerLast_controllerLast (acts : List Action) :
    controllerLast (controllerLast acts) = controllerLast acts := by
  have hnone : acts.filter (fun _ => false) = [] := List.filter_eq_nil_iff.2 (by simp)
  simp [controllerLast, List.filter_append, List.filter_filter, hnone]

theorem Action.canonical_of_port {a : Action} (h : a.port.Canonical) : a.Canonical := by
  cases a
  exact h

/-! ### Whole messages -/

namespace Message

/-- A message whose written bytes read back as a message written the same way: a raw body only
under a type without a constructor of its own, port names whose field holds NUL-free UTF-8, and
every physical port of an action or an output port below the reserved numbers. -/
def BodyStable : Message → Prop
  | unmodeled c _ => c.isModeled = false
  | featuresReply f => ∀ p ∈ f.ports, PortDesc.NameFieldFits p.name
  | m => ∀ q ∈ m.ports, q.Canonical

/-- The message with every field spelled the way the wire reads it back; the order of a
flow-mod's actions is left to `normalize`. -/
def canonicalize : Message → Message
  | featuresReply f => featuresReply f.canonicalize
  | packetIn p => packetIn p.canonicalize
  | packetOut p => packetOut p.canonicalize
  | flowMod f => flowMod f.canonicalize
  | m => m

theorem code_canonicalize (m : Message) : m.canonicalize.code = m.code := by
  cases m <;> rfl

theorem size_canonicalize (m : Message) : m.canonicalize.size = m.size := by
  cases m with
  | featuresReply f => simp only [canonicalize, size, bodySize, f.size_canonicalize]
  | packetIn p => simp only [canonicalize, size, bodySize, p.size_canonicalize]
  | packetOut p => simp only [canonicalize, size, bodySize, p.size_canonicalize]
  | _ => rfl

theorem encodeBody_canonicalize {m : Message} (hm : m.BodyStable) :
    encodeBody m.canonicalize = encodeBody m := by
  cases m with
  | featuresReply f => simp only [canonicalize, encodeBody, f.encode_canonicalize hm]
  | packetIn p => simp only [canonicalize, encodeBody, p.encode_canonicalize]
  | packetOut p => simp only [canonicalize, encodeBody, p.encode_canonicalize]
  | flowMod f => simp only [canonicalize, encodeBody, f.encode_canonicalize]
  | _ => rfl

/-- Spelling a message's fields as they read back changes none of its bytes. -/
theorem encode_canonicalize (v : UInt8) (x : UInt32) {m : Message} (hm : m.BodyStable) :
    encode v x m.canonicalize = encode v x m :=
  encode_congr m.size_canonicalize m.code_canonicalize (encodeBody_canonicalize hm)

theorem outputsToTable_of_encode {v : UInt8} {x : UInt32} {m : Message} {bytes : List UInt8}
    (h : encode v x m = .ok bytes) : m.outputsToTable = false := by
  obtain ⟨-, body, hbody, -⟩ := encode_ok h
  rcases htable : m.outputsToTable
  · rfl
  · obtain ⟨e, he⟩ := (encodeBody_eq_error_iff m).2 htable
    rw [hbody] at he
    cases he

theorem canonicalize_bodyCanonical {m : Message} (hm : m.BodyStable)
    (htable : m.outputsToTable = false) : m.canonicalize.BodyCanonical := by
  cases m with
  | unmodeled c d => exact hm
  | featuresReply f =>
    intro p hp
    obtain ⟨q, hq, rfl⟩ := List.mem_map.1 hp
    exact PortDesc.canonicalize_nameFits (hm q hq)
  | packetIn p => exact Payload.ofWire_canonical _ _
  | packetOut p =>
    exact p.canonicalize_canonical fun a ha => Action.canonical_of_port (hm _ (List.mem_map_of_mem ha))
  | flowMod f =>
    exact f.canonicalize_canonical
      (fun a ha => Action.canonical_of_port (hm _ (List.mem_append_left _ (List.mem_map_of_mem ha))))
      (fun q hq => hm q (List.mem_append_right _ (Option.mem_toList.2 hq))) htable
  | _ => trivial

theorem encode_normalize (v : UInt8) (x : UInt32) (m : Message) :
    encode v x m.normalize = encode v x m := by
  cases m with
  | flowMod f =>
    refine encode_congr ?_ rfl ?_
    · simp only [normalize, size, bodySize, FlowMod.size, Action.length_controllerLast]
    · simp only [normalize, encodeBody, FlowMod.encode_eq, FlowMod.outputsToTableSome,
        (Action.controllerLast_perm f.actions).any_eq, Action.controllerLast_controllerLast]
      rfl
  | _ => rfl

/-- A written message that meets `BodyStable` reads back, under the header announcing it, as
the message with its fields spelled as they read back and its actions in controller-last
order. -/
theorem decode_encode_eq_canonicalize {v : UInt8} {x : UInt32} {m : Message}
    {bytes : List UInt8} (hm : m.BodyStable) (h : encode v x m = .ok bytes) :
    decode bytes = .ok (⟨v, m.code.toByte, m.size.toUInt16, x⟩, m.canonicalize.normalize) := by
  have hcanon : encode v x m.canonicalize = .ok bytes := (encode_canonicalize v x hm).trans h
  obtain ⟨body, hbody, hdecode⟩ := decode_of_encode hcanon
  have hread : m.canonicalize.Canonical :=
    ⟨(encode_ok hcanon).1, canonicalize_bodyCanonical hm (outputsToTable_of_encode h)⟩
  rw [parse_encodeBody hread rfl hbody, except_map_ok, m.code_canonicalize,
    m.size_canonicalize] at hdecode
  exact hdecode

/-- Bytes written for a message that meets `BodyStable` are a fixed point of reading and
writing: the message they read back as is written, with the same version and transaction id,
as the same bytes. -/
theorem reencode_decoded_eq {v : UInt8} {x : UInt32} {m : Message} {bytes : List UInt8}
    (hm : m.BodyStable) (henc : encode v x m = .ok bytes) {h : Header} {m' : Message}
    (hdec : decode bytes = .ok (h, m')) : encode v x m' = .ok bytes := by
  rw [decode_encode_eq_canonicalize hm henc] at hdec
  obtain ⟨-, rfl⟩ := Prod.mk.inj (Except.ok.inj hdec)
  rw [encode_normalize, encode_canonicalize v x hm, henc]

end Message

/-- A flow-mod written in every spelling the wire does not keep: a zero idle timeout, the "no
buffer" id, a byte limit on the controller as output port, and an output to the controller before
an output to a physical port. -/
def laxFlowMod : FlowMod :=
  { FlowMod.addFlow 5 Match.all [.output (.controller 64), .output (.physical 3)] with
    idleTimeout := .expiresAfter 0, applyToPacket := some noBuffer,
    outPort := some (.controller 128) }

theorem laxFlowMod_reencoded :
    ∃ bytes, (Message.flowMod laxFlowMod).BodyStable ∧
      Message.encode 1 7 (.flowMod laxFlowMod) = .ok bytes ∧
      Message.decode bytes = .ok (⟨1, 14, 88, 7⟩, .flowMod
        { FlowMod.addFlow 5 Match.all [.output (.physical 3), .output (.controller 64)] with
          outPort := some (.controller 0) }) ∧
      Message.encode 1 7 (.flowMod
        { FlowMod.addFlow 5 Match.all [.output (.physical 3), .output (.controller 64)] with
          outPort := some (.controller 0) }) = .ok bytes := by
  obtain ⟨bytes, henc⟩ : ∃ bytes, Message.encode 1 7 (.flowMod laxFlowMod) = .ok bytes :=
    ⟨_, rfl⟩
  have hstable : (Message.flowMod laxFlowMod).BodyStable := by
    simp [Message.BodyStable, Message.ports, laxFlowMod, FlowMod.addFlow, Action.port,
      PseudoPort.Canonical, PseudoPort.maxPhysical]
  have hdec := Message.decode_encode_eq_canonicalize hstable henc
  exact ⟨bytes, hstable, henc, hdec, Message.reencode_decoded_eq hstable henc hdec⟩

end OpenFlow
