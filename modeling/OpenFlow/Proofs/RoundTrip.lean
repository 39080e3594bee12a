import OpenFlow.Proofs.Encoding
import OpenFlow.Proofs.Utf8

/-!
# Written messages read back

Every message in the canonical domain (`Message.Canonical`) is written and reads back from its
bytes as itself, under the header that announces its version, type, size and transaction id
(`Message.decode_encode_eq_normalize`). The only change is the order of a flow-mod's actions,
whose outputs to the controller are written last (`Message.normalize`).

The domain collects, body by body, what the wire cannot tell apart: a raw body only under a type
with no constructor of its own, port names of at most sixteen UTF-8 bytes and no zero byte
(`PortDesc.NameFits`), physical ports below the reserved numbers (`PseudoPort.Canonical`), no
buffer or port named by its "none" number, no buffered packet-out carrying a frame, and no
flow-mod with a zero timeout, a controller byte limit on its output port or an output to the
flow table. Each body has its own `decode_encode` lemma, which `Message.parse_encodeBody`
dispatches to.
-/

namespace OpenFlow

/-! ### Ports and actions -/

namespace PseudoPort

/-- A port that reads back as itself: a physical port is numbered below the reserved ones. -/
def Canonical : PseudoPort → Prop
  | physical n => n ≤ maxPhysical
  | _ => True

/-- The byte limit an output action writes after the port number. -/
def writtenMaxLen : PseudoPort → UInt16
  | controller n => n
  | _ => 0

theorem make_number {p : PseudoPort} (hp : p.Canonical) :
    make p.number p.writtenMaxLen = .ok p := by
  cases p with
  | physical n =>
    have hmax : n ≤ maxPhysical := hp
    have hn : n.toNat ≤ 0xff00 := UInt16.le_iff_toNat_le.mp hmax
    have hne : ∀ k : UInt16, 0xff00 < k.toNat → n ≠ k := fun k hk h => by subst h; omega
    simp [make, number, hne 0xfff8 (by decide), hne 0xfff9 (by decide),
      hne 0xfffa (by decide), hne 0xfffb (by decide), hne 0xfffc (by decide),
      hne 0xfffd (by decide), hne 0xfffe (by decide), hmax]
  | _ => rfl

end PseudoPort

namespace Action

/-- An action that reads back as itself: its port does. -/
def Canonical : Action → Prop
  | output p => p.Canonical

theorem encode_output (p : PseudoPort) :
    (output p).encode = 0 :: 0 :: 0 :: 8 :: (be16 p.number ++ be16 p.writtenMaxLen) := by
  cases p <;> rfl

theorem decodeAll_output (p0 p1 m0 m1 : UInt8) (more : List UInt8) :
    decodeAll (0 :: 0 :: 0 :: 8 :: p0 :: p1 :: m0 :: m1 :: more) =
      PseudoPort.make (word16 p0 p1) (word16 m0 m1) >>= fun port =>
        decodeAll more >>= fun tail => pure (output port :: tail) := by
  rw [decodeAll]
  rfl

theorem decodeAll_encodeAll (acts : List Action) (h : ∀ a ∈ acts, a.Canonical) :
    decodeAll (encodeAll acts) = .ok acts := by
  induction acts with
  | nil => simp [decodeAll]
  | cons a acts ih =>
    obtain ⟨p⟩ := a
    have hp : p.Canonical := h _ List.mem_cons_self
    rw [encodeAll_cons, encode_output]
    simp only [be16, List.cons_append, List.nil_append, decodeAll_output, word16_bytes,
      PseudoPort.make_number hp, ih fun a ha => h a (List.mem_cons_of_mem _ ha)]
    rfl

end Action

/-! ### Matches, ports and switch features -/

theorem Match.decoder_run (m : Match) (rest : List UInt8) :
    Match.decoder.run (m.encode ++ rest) = .ok (m, rest) := by
  simp only [Match.encode, Match.decoder, List.append_assoc, Decoder.run_bind,
    Decoder.u32_run, Decoder.u16_run, MacAddr.decoder_run, Decoder.byte_run,
    Decoder.skip_padding_run, Decoder.run_pure, List.cons_append, List.nil_append]

theorem Match.decode_encode (m : Match) : Match.decode m.encode = .ok m := by
  rw [Match.decode, if_pos (Match.encode_length m), Decoder.decode, ← List.append_nil m.encode,
    Match.decoder_run]
  rfl

namespace PortDesc

/-- A name that survives its sixteen-byte field: at most sixteen UTF-8 bytes and no zero byte. -/
def NameFits (name : String) : Prop :=
  name.toUTF8.toList.length ≤ portNameLength ∧ 0 ∉ name.toUTF8.toList

theorem decodeName_encodeName {name : String} (h : NameFits name) :
    decodeName (encodeName name) = name := by
  obtain ⟨hlen, hzero⟩ := h
  have hraw : name.toUTF8.toList.take portNameLength = name.toUTF8.toList :=
    List.take_of_length_le hlen
  have hpos : ∀ b ∈ name.toUTF8.toList, (b != 0) = true := by
    intro b hb
    simp only [bne_iff_ne, ne_eq]
    rintro rfl
    exact hzero hb
  rw [decodeName, encodeName, hraw, List.takeWhile_append_of_pos hpos, padding,
    List.takeWhile_replicate, if_neg (by decide), List.append_nil, Text.stringOfUtf8Lossy_toUTF8]

theorem decoder_run (p : PortDesc) (hname : NameFits p.name) (rest : List UInt8) :
    decoder.run (p.encode ++ rest) = .ok (p, rest) := by
  have htake := Decoder.take_run (encodeName p.name)
  rw [encodeName_length] at htake
  simp only [encode, decoder, List.append_assoc, Decoder.run_bind, Decoder.u16_run,
    MacAddr.decoder_run, htake, Decoder.u32_run, Decoder.run_pure, decodeName_encodeName hname]

end PortDesc

namespace SwitchFeatures

theorem portsDecoder_run (ps : List PortDesc) (h : ∀ p ∈ ps, PortDesc.NameFits p.name)
    (rest : List UInt8) :
    (portsDecoder ps.length).run ((ps.map PortDesc.encode).flatten ++ rest) = .ok (ps, rest) := by
  induction ps with
  | nil => rfl
  | cons p ps ih =>
    simp only [List.length_cons, portsDecoder, List.map_cons, List.flatten_cons, List.append_assoc,
      Decoder.run_bind, PortDesc.decoder_run p (h p List.mem_cons_self),
      ih (fun q hq => h q (List.mem_cons_of_mem _ hq)), Decoder.run_pure]

theorem decode_encode (f : SwitchFeatures) (h : ∀ p ∈ f.ports, PortDesc.NameFits p.name) :
    decode f.encode = .ok f := by
  have hlen := encode_length f
  have hports : (f.encode.length - fixedSize) / PortDesc.size = f.ports.length := by
    rw [hlen, size]
    simp [PortDesc.size]
  rw [decode, if_neg (by rw [hlen, size]; omega), if_neg (by rw [hlen, size]; simp [PortDesc.size]),
    hports, ← List.append_nil f.encode]
  simp only [encode, Decoder.decode, List.append_assoc, Decoder.run_bind, Decoder.u64_run,
    Decoder.u32_run, Decoder.byte_run, List.cons_append, List.nil_append, Decoder.skip_padding_run,
    portsDecoder_run f.ports h, Decoder.run_pure]
  rfl

end SwitchFeatures

/-! ### Packets -/

namespace Payload

/-- A payload whose buffer id reads back as it: a buffered one never names `noBuffer`. -/
def Canonical : Payload → Prop
  | buffered id _ => id ≠ noBuffer
  | notBuffered _ => True

theorem ofWire_bufferId {p : Payload} (hp : p.Canonical) (d : List UInt8)
    (hd : d = p.data) : ofWire p.bufferId d = p := by
  cases p with
  | buffered id data =>
    have hid : id ≠ noBuffer := hp
    simp [ofWire, bufferId, hid, hd, Payload.data]
  | notBuffered data => simp [ofWire, bufferId, hd, Payload.data]

end Payload

theorem PacketInReason.ofByte_toByte (r : PacketInReason) :
    PacketInReason.ofByte r.toByte = .ok r := by
  cases r <;> rfl

theorem PacketIn.decode_encode (p : PacketIn) (hp : p.payload.Canonical) :
    PacketIn.decode p.encode = .ok p := by
  simp only [PacketIn.encode, be32, be16, padding, List.replicate, List.cons_append,
    List.nil_append, PacketIn.decode, PacketInReason.ofByte_toByte,
    word32_bytes, word16_bytes, Payload.ofWire_bufferId hp _ rfl]
  rfl

namespace PacketOut

/-- A packet-out that reads back as itself: its payload names a real buffer or none, a buffered
one carries no frame, its port is not the "no port" number, and its actions read back. -/
def Canonical (p : PacketOut) : Prop :=
  p.payload.Canonical ∧ (∀ id d, p.payload = .buffered id d → d = []) ∧
    p.portId ≠ some PseudoPort.noPort ∧ ∀ a ∈ p.actions, a.Canonical

theorem decode_encode (p : PacketOut) (hp : p.Canonical)
    (hsize : Action.size * p.actions.length ≤ Message.maxSize) :
    PacketOut.decode p.encode = .ok p := by
  obtain ⟨hpay, hdata, hport, hacts⟩ := hp
  have hlen : (word16 ((Action.size * p.actions.length).toUInt16 >>> 8).toUInt8
      (Action.size * p.actions.length).toUInt16.toUInt8).toNat =
        Action.size * p.actions.length := by
    rw [word16_bytes, Message.toUInt16_toNat_of_le hsize]
  have hcarried : carriedData p.payload = p.payload.data := by
    cases h : p.payload with
    | buffered id d => simp [carriedData, Payload.data, hdata id d h]
    | notBuffered d => rfl
  have hportId : (if p.portId.getD PseudoPort.noPort = PseudoPort.noPort then none
      else some (p.portId.getD PseudoPort.noPort)) = p.portId := by
    cases h : p.portId with
    | none => rfl
    | some q =>
      have hq : q ≠ PseudoPort.noPort := fun hq => hport (h ▸ hq ▸ rfl)
      simp [hq]
  simp only [encode, be32, be16, List.cons_append, List.nil_append, decode, hlen]
  rw [if_neg (by simp), List.take_left' (Action.encodeAll_length _),
    List.drop_left' (Action.encodeAll_length _), Action.decodeAll_encodeAll _ hacts, hcarried,
    word32_bytes, word16_bytes, Payload.ofWire_bufferId hpay _ rfl, hportId]
  rfl

end PacketOut

/-! ### Flow-mods -/

theorem Timeout.ofWire_toWire {t : Timeout} (ht : t ≠ .expiresAfter 0) :
    Timeout.ofWire t.toWire = t := by
  cases t with
  | permanent => rfl
  | expiresAfter s =>
    have hs : s ≠ 0 := fun h => ht (h ▸ rfl)
    simp [Timeout.ofWire, Timeout.toWire, hs]

theorem FlowModCommand.ofWire_toWire (c : FlowModCommand) :
    FlowModCommand.ofWire c.toWire = .ok c := by
  cases c <;> rfl

namespace FlowMod

/-- A flow-mod that reads back as itself but for the order of its actions: no timeout of zero
seconds, no buffer named `noBuffer`, an output port that reads back and names no controller byte
limit, and actions that read back and do not output to the flow table. -/
def Canonical (f : FlowMod) : Prop :=
  f.idleTimeout ≠ .expiresAfter 0 ∧ f.hardTimeout ≠ .expiresAfter 0 ∧
    f.applyToPacket ≠ some noBuffer ∧
    (∀ p, f.outPort = some p → p.Canonical) ∧
    (∀ n, f.outPort = some (.controller n) → n = 0) ∧
    ∀ a ∈ f.actions, a.Canonical ∧ a ≠ .output .table

theorem ofWire?_outPort {f : FlowMod} (hport : ∀ p, f.outPort = some p → p.Canonical)
    (hctl : ∀ n, f.outPort = some (.controller n) → n = 0) :
    PseudoPort.ofWire? ((f.outPort.map PseudoPort.number).getD PseudoPort.noPort) =
      .ok f.outPort := by
  cases h : f.outPort with
  | none => rfl
  | some p =>
    have hnum : p.number ≠ PseudoPort.noPort := by
      cases p with
      | physical n =>
        have hn : n.toNat ≤ 0xff00 := UInt16.le_iff_toNat_le.mp (hport _ h)
        intro he
        have := congrArg UInt16.toNat he
        simp [PseudoPort.number, PseudoPort.noPort] at this
        omega
      | _ => simp [PseudoPort.number, PseudoPort.noPort]
    have hmax : p.writtenMaxLen = 0 := by
      cases p with
      | controller n => exact hctl n h
      | _ => rfl
    have hmake := PseudoPort.make_number (hport _ h)
    rw [hmax] at hmake
    rw [Option.map_some, Option.getD_some, PseudoPort.ofWire?, if_neg hnum, hmake]
    rfl

theorem outputsToTable_iff {a : Action} : outputsToTable a = true ↔ a = .output .table := by
  unfold outputsToTable
  split <;> simp_all

theorem outputsToTableSome_of_canonical {f : FlowMod} (hf : f.Canonical) :
    f.outputsToTableSome = false := by
  simp only [outputsToTableSome, List.any_eq_false]
  intro a ha htable
  exact (hf.2.2.2.2.2 a ha).2 (outputsToTable_iff.1 htable)

theorem decode_encode (f : FlowMod) (hf : f.Canonical) :
    decode (f.fixedBytes ++ Action.encodeAll (Action.controllerLast f.actions)) =
      .ok { f with actions := Action.controllerLast f.actions } := by
  obtain ⟨hidle, hhard, hbuf, hport, hctl, hacts⟩ := hf
  have hfields : f.fieldBytes.length = 24 := by simp [fieldBytes]
  have hbufId : (if f.applyToPacket.getD noBuffer = noBuffer then none
      else some (f.applyToPacket.getD noBuffer)) = f.applyToPacket := by
    cases h : f.applyToPacket with
    | none => rfl
    | some b =>
      have hb : b ≠ noBuffer := fun hb => hbuf (h ▸ hb ▸ rfl)
      simp [hb]
  have hread : ∀ a ∈ Action.controllerLast f.actions, a.Canonical :=
    fun a ha => (hacts a (Action.mem_controllerLast.1 ha)).1
  have hfixed : (f.pattern.encode ++ f.fieldBytes).length = fixedSize := by
    simp [hfields, Match.size, fixedSize]
  rw [decode, if_neg (by simp [fixedSize]), fixedBytes, List.take_left' hfixed,
    List.drop_left' hfixed, List.append_assoc, List.take_left' (Match.encode_length _),
    Match.decode_encode, List.drop_left' (Match.encode_length _), ← List.append_nil f.fieldBytes]
  simp only [fieldBytes, Decoder.decode, List.append_assoc, Decoder.run_bind, Decoder.u64_run,
    Decoder.u16_run, Decoder.u32_run, Decoder.run_pure, except_ok_bind, except_map_ok,
    FlowModCommand.ofWire_toWire, ofWire?_outPort hport hctl, Action.decodeAll_encodeAll _ hread,
    Timeout.ofWire_toWire hidle, Timeout.ofWire_toWire hhard, hbufId]
  rfl

end FlowMod

/-! ### Whole messages -/

theorem ErrorMsg.decode_encode (e : ErrorMsg) : ErrorMsg.decode e.encode = .ok e := by
  simp only [ErrorMsg.encode, be16, List.cons_append, List.nil_append, ErrorMsg.decode,
    word16_bytes]

theorem MsgCode.ofByte_toByte (c : MsgCode) : MsgCode.ofByte c.toByte = .ok c := by
  cases c <;> rfl

theorem Header.decode_encode (h : Header) (rest : List UInt8) :
    Header.decode (h.encode ++ rest) = .ok h := by
  simp only [Header.encode, be16, be32, List.cons_append, List.nil_append, Header.decode,
    word16_bytes, word32_bytes]

/-- The message types with a constructor of their own; the others are kept as raw bodies. -/
def MsgCode.isModeled : MsgCode → Bool
  | .hello | .error | .echoRequest | .echoReply | .featuresRequest | .featuresReply | .packetIn
  | .packetOut | .flowMod => true
  | _ => false

namespace Message

/-- The body of a message reads back as the message: a raw body only under a type without a
constructor of its own, port names that fit their fields, and canonical packets and flow-mods. -/
def BodyCanonical : Message → Prop
  | unmodeled c _ => c.isModeled = false
  | featuresReply f => ∀ p ∈ f.ports, PortDesc.NameFits p.name
  | packetIn p => p.payload.Canonical
  | packetOut p => p.Canonical
  | flowMod f => f.Canonical
  | _ => True

/-- A message that reads back as itself, up to the order of a flow-mod's actions. -/
def Canonical (m : Message) : Prop :=
  m.size ≤ maxSize ∧ m.BodyCanonical

/-- A message as it reads back after writing: a flow-mod's actions with those to the controller
last. -/
def normalize : Message → Message
  | flowMod f => flowMod { f with actions := Action.controllerLast f.actions }
  | m => m

theorem parse_encodeBody {m : Message} (hm : m.Canonical) {h : Header}
    (hcode : h.typeCode = m.code.toByte) {body : List UInt8} (hbody : encodeBody m = .ok body) :
    parse h body = .ok m.normalize := by
  obtain ⟨hsize, hcanon⟩ := hm
  have hh : h.code = .ok m.code := by rw [Header.code, hcode, MsgCode.ofByte_toByte]
  cases m with
  | hello => cases hbody; simp [parse, hh, code, normalize]
  | error e => cases hbody; simp [parse, hh, code, normalize, ErrorMsg.decode_encode]
  | echoRequest d => cases hbody; simp [parse, hh, code, normalize]
  | echoReply d => cases hbody; simp [parse, hh, code, normalize]
  | featuresRequest => cases hbody; simp [parse, hh, code, normalize]
  | featuresReply f =>
    cases hbody
    simp [parse, hh, code, normalize, SwitchFeatures.decode_encode f hcanon]
  | packetIn p =>
    cases hbody
    simp [parse, hh, code, normalize, PacketIn.decode_encode p hcanon]
  | packetOut p =>
    cases hbody
    have hacts : Action.size * p.actions.length ≤ maxSize := by
      simp only [size, bodySize, PacketOut.size] at hsize
      omega
    simp [parse, hh, code, normalize, PacketOut.decode_encode p hcanon hacts]
  | flowMod f =>
    rw [encodeBody, FlowMod.encode_eq,
      if_neg (by simp [FlowMod.outputsToTableSome_of_canonical hcanon])] at hbody
    cases hbody
    simp [parse, hh, code, normalize, FlowMod.decode_encode f hcanon]
  | unmodeled c d =>
    cases hbody
    simp only [BodyCanonical] at hcanon
    cases c <;> simp_all [parse, code, normalize, MsgCode.isModeled]

theorem outputsToTable_of_canonical {m : Message} (hm : m.BodyCanonical) :
    m.outputsToTable = false := by
  cases m with
  | flowMod f => exact FlowMod.outputsToTableSome_of_canonical hm
  | _ => rfl

/-- A canonical message is written, and reads back from its bytes as itself under the header
that announces its version, type, size and transaction id; a flow-mod comes back with its
actions to the controller last. -/
theorem decode_encode_eq_normalize (v : UInt8) (x : UInt32) {m : Message} (hm : m.Canonical) :
    ∃ bytes, encode v x m = .ok bytes ∧
      decode bytes = .ok (⟨v, m.code.toByte, m.size.toUInt16, x⟩, m.normalize) := by
  obtain ⟨hsize, hcanon⟩ := hm
  obtain ⟨body, hbody⟩ : ∃ body, encodeBody m = .ok body := by
    cases hb : encodeBody m with
    | ok body => exact ⟨body, rfl⟩
    | error e =>
      have := (encodeBody_eq_error_iff m).1 ⟨e, hb⟩
      rw [outputsToTable_of_canonical hcanon] at this
      cases this
  let hdr : Header := ⟨v, m.code.toByte, m.size.toUInt16, x⟩
  have hencode : encode v x m = .ok (hdr.encode ++ body) := by
    rw [encode_eq, if_neg (Nat.not_lt.2 hsize), hbody, except_map_ok]
  have hhdr : hdr.encode.length = Header.size := rfl
  have hlen : hdr.length.toNat = m.size := toUInt16_toNat_of_le hsize
  have htotal : (hdr.encode ++ body).length = m.size := by
    rw [List.length_append, hhdr, encodeBody_length hbody, size]
  have hframe : (hdr.encode ++ body).take m.size = hdr.encode ++ body :=
    List.take_of_length_le (Nat.le_of_eq htotal)
  have hfits : (decide (m.size < Header.size) || decide (m.size < m.size)) = false := by
    rw [Bool.or_eq_false_iff, decide_eq_false_iff_not, decide_eq_false_iff_not, size]
    omega
  refine ⟨_, hencode, ?_⟩
  rw [decode, Header.decode_encode]
  simp only [except_ok_bind, hlen, hframe, htotal]
  rw [hfits, if_neg Bool.false_ne_true, List.drop_left' hhdr,
    parse_encodeBody ⟨hsize, hcanon⟩ rfl hbody]
  rfl

end Message

/-- A packet-out sending a frame to port 1 and to the controller reads back whole. -/
theorem packetOut_decode_encode :
    ∃ bytes, Message.encode 1 5 (.packetOut ⟨.notBuffered [], none,
        [.output (.physical 1), .output (.controller 128)]⟩) = .ok bytes ∧
      Message.decode bytes = .ok (⟨1, 13, 32, 5⟩, .packetOut ⟨.notBuffered [], none,
        [.output (.physical 1), .output (.controller 128)]⟩) :=
  Message.decode_encode_eq_normalize 1 5 ⟨by decide, by
    simp [Message.BodyCanonical, PacketOut.Canonical, Payload.Canonical, Action.Canonical,
      PseudoPort.Canonical, PseudoPort.maxPhysical]⟩

end OpenFlow
