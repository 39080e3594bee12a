import OpenFlow.Proofs.Words
import OpenFlow.Wire.Message

/-!
# Writing messages

What `Message.encode` writes. Each body's encoding is exactly as long as its size says
(`Message.encodeBody_length`), a port name taking its sixteen bytes whatever its length
(`PortDesc.encodeName_length`). Writing fails exactly for a message too long for the length field
or a flow-mod with an output to the flow table, and always as a malformed message
(`Message.encode_eq_error_iff`). The main statement, `Message.encode_layout`, reads the header
fields, a packet-out's action length and a flow-mod's action list back from the written bytes.
-/

namespace OpenFlow

/-! ### Actions -/

namespace Action

@[simp] theorem encode_length (a : Action) : a.encode.length = size := by
  cases a
  rfl

@[simp] theorem encodeAll_nil : encodeAll [] = [] := rfl

@[simp] theorem encodeAll_cons (a : Action) (acts : List Action) :
    encodeAll (a :: acts) = a.encode ++ encodeAll acts := rfl

@[simp] theorem encodeAll_length (acts : List Action) :
    (encodeAll acts).length = size * acts.length := by
  induction acts with
  | nil => rfl
  | cons a acts ih =>
    rw [encodeAll_cons, List.length_append, ih, encode_length, List.length_cons, Nat.mul_succ]
    omega

/-- Moving the outputs to the controller last only reorders the actions. -/
theorem controllerLast_perm (acts : List Action) : (controllerLast acts).Perm acts := by
  simpa [controllerLast] using List.filter_append_perm (fun a => !a.toController) acts

theorem length_controllerLast (acts : List Action) :
    (controllerLast acts).length = acts.length :=
  (controllerLast_perm acts).length_eq

theorem mem_controllerLast {acts : List Action} {a : Action} :
    a ∈ controllerLast acts ↔ a ∈ acts :=
  (controllerLast_perm acts).mem_iff

end Action

/-! ### Lengths of the bodies -/

@[simp] theorem Match.encode_length (m : Match) : m.encode.length = Match.size := by
  simp [Match.encode, MacAddr.toList, Match.size]

/-- A name field takes sixteen bytes whatever the name's length. -/
@[simp] theorem PortDesc.encodeName_length (name : String) :
    (PortDesc.encodeName name).length = portNameLength := by
  simp only [PortDesc.encodeName, List.length_append, padding_length, List.length_take]
  omega

@[simp] theorem PortDesc.encode_length (p : PortDesc) : p.encode.length = PortDesc.size := by
  simp [PortDesc.encode, MacAddr.toList, PortDesc.size, portNameLength]

theorem SwitchFeatures.encode_length (f : SwitchFeatures) : f.encode.length = f.size := by
  have hports : ∀ ps : List PortDesc,
      (ps.map PortDesc.encode).flatten.length = PortDesc.size * ps.length := by
    intro ps
    induction ps with
    | nil => rfl
    | cons p ps ih =>
      rw [List.map_cons, List.flatten_cons, List.length_append, ih, PortDesc.encode_length,
        List.length_cons, Nat.mul_succ]
      omega
  simp [SwitchFeatures.encode, SwitchFeatures.size, SwitchFeatures.fixedSize, hports]
  omega

theorem PacketIn.encode_length (p : PacketIn) : p.encode.length = p.size := by
  simp [PacketIn.encode, PacketIn.size, PacketIn.fixedSize]
  omega

theorem PacketOut.encode_length (p : PacketOut) : p.encode.length = p.size := by
  simp [PacketOut.encode, PacketOut.size, PacketOut.fixedSize]
  omega

theorem ErrorMsg.encode_length (e : ErrorMsg) : e.encode.length = e.size := by
  simp [ErrorMsg.encode, ErrorMsg.size]
  omega

/-! ### Flow-mods -/

namespace FlowMod

/-- The 24 bytes of a flow-mod body between its match pattern and its actions. -/
def fieldBytes (f : FlowMod) : List UInt8 :=
  be64 f.cookie ++ be16 f.command.toWire ++ be16 f.idleTimeout.toWire ++
    be16 f.hardTimeout.toWire ++ be16 f.priority ++ be32 (f.applyToPacket.getD noBuffer) ++
    be16 ((f.outPort.map PseudoPort.number).getD PseudoPort.noPort) ++ be16 f.flags

/-- The 64 fixed bytes of a flow-mod body. -/
def fixedBytes (f : FlowMod) : List UInt8 :=
  f.pattern.encode ++ f.fieldBytes

@[simp] theorem fixedBytes_length (f : FlowMod) : f.fixedBytes.length = fixedSize := by
  simp [fixedBytes, fieldBytes, Match.size, fixedSize]

/-- Whether some action outputs to the flow table. -/
def outputsToTableSome (f : FlowMod) : Bool :=
  f.actions.any outputsToTable

/-- Writing a flow-mod: refused when an action outputs to the flow table, else the fixed
bytes and the actions with those to the controller last. -/
theorem encode_eq (f : FlowMod) :
    f.encode = if f.outputsToTableSome then
        .error (.malformed "flow mod" "OFPP_TABLE not allowed in installed flow")
      else .ok (f.fixedBytes ++ Action.encodeAll (Action.controllerLast f.actions)) := by
  simp only [encode, outputsToTableSome, (Action.controllerLast_perm f.actions).any_eq,
    fixedBytes, fieldBytes, List.append_assoc]

theorem encode_length {f : FlowMod} {bytes : List UInt8} (h : f.encode = .ok bytes) :
    bytes.length = f.size := by
  rw [encode_eq] at h
  split at h
  · cases h
  · obtain rfl := Except.ok.inj h
    simp [size, Action.length_controllerLast]

end FlowMod

/-! ### Messages -/

namespace Message

/-- Whether the message is a flow-mod with an output to the flow table. -/
def outputsToTable : Message → Bool
  | flowMod f => f.outputsToTableSome
  | _ => false

theorem encodeBody_eq_error_iff (m : Message) :
    (∃ e, encodeBody m = .error e) ↔ m.outputsToTable := by
  cases m with
  | flowMod f =>
    rw [encodeBody, FlowMod.encode_eq, outputsToTable]
    split <;> simp_all
  | _ => simp [encodeBody, outputsToTable]

theorem encodeBody_error {m : Message} {e : WireError} (h : encodeBody m = .error e) :
    e = .malformed "flow mod" "OFPP_TABLE not allowed in installed flow" := by
  cases m with
  | flowMod f =>
    rw [encodeBody, FlowMod.encode_eq] at h
    split at h <;> simp_all
  | _ => simp [encodeBody] at h

theorem encodeBody_length {m : Message} {body : List UInt8} (h : encodeBody m = .ok body) :
    body.length = m.bodySize := by
  cases m with
  | flowMod f => exact FlowMod.encode_length h
  | error e => cases h; exact ErrorMsg.encode_length e
  | featuresReply f => cases h; exact SwitchFeatures.encode_length f
  | packetIn p => cases h; exact PacketIn.encode_length p
  | packetOut p => cases h; exact PacketOut.encode_length p
  | _ => cases h; rfl

/-- Writing a message: refused when it is too long for the length field, else its header and
then its body, if the body can be written. -/
theorem encode_eq (v : UInt8) (x : UInt32) (m : Message) :
    encode v x m = if maxSize < m.size then
        .error (.malformed "message" (toString m.size ++ " bytes exceeds the length field"))
      else (encodeBody m).map fun body =>
        Header.encode ⟨v, m.code.toByte, m.size.toUInt16, x⟩ ++ body := by
  simp only [encode, header, gt_iff_lt]
  split
  · rfl
  · cases encodeBody m <;> rfl

theorem encode_eq_error_iff (v : UInt8) (x : UInt32) (m : Message) :
    (∃ e, encode v x m = .error e) ↔ maxSize < m.size ∨ m.outputsToTable := by
  rw [encode_eq, ← encodeBody_eq_error_iff]
  split
  · simp_all
  · cases encodeBody m <;> simp_all [Except.map]

theorem encode_error {v : UInt8} {x : UInt32} {m : Message} {e : WireError}
    (h : encode v x m = .error e) : ∃ what reason, e = .malformed what reason := by
  rw [encode_eq] at h
  split at h
  · cases h
    exact ⟨_, _, rfl⟩
  · cases hb : encodeBody m with
    | error e' =>
      rw [hb] at h
      cases h
      exact ⟨_, _, encodeBody_error hb⟩
    | ok body => rw [hb] at h; cases h

/-- The bytes of a successfully written message: its header, then its body. -/
theorem encode_ok {v : UInt8} {x : UInt32} {m : Message} {bytes : List UInt8}
    (h : encode v x m = .ok bytes) :
    m.size ≤ maxSize ∧ ∃ body, encodeBody m = .ok body ∧
      bytes = Header.encode ⟨v, m.code.toByte, m.size.toUInt16, x⟩ ++ body := by
  rw [encode_eq] at h
  split at h
  · cases h
  · rename_i hsize
    cases hb : encodeBody m with
    | error e => rw [hb] at h; cases h
    | ok body =>
      rw [hb] at h
      cases h
      exact ⟨Nat.le_of_not_lt hsize, body, rfl, rfl⟩

/-- The length field holds the message's size exactly: the size was checked to fit. -/
theorem toUInt16_toNat_of_le {n : Nat} (h : n ≤ maxSize) : n.toUInt16.toNat = n := by
  rw [Nat.toUInt16_eq, UInt16.toNat_ofNat']
  exact Nat.mod_eq_of_lt (by simp only [maxSize] at h; omega)

/-- What a successfully written message looks like: as many bytes as its size, the version,
the type byte, the length and the transaction id first, a packet-out's action length counting
eight bytes for each action, and a flow-mod's actions after its 72 fixed bytes with those to the
controller last. -/
theorem encode_ok_layout {v : UInt8} {x : UInt32} {m : Message} {bytes : List UInt8}
    (h : encode v x m = .ok bytes) :
    bytes.length = m.size ∧ bytes.length ≤ maxSize ∧
      bytes[0]? = some v ∧ bytes[1]? = some m.code.toByte ∧
      (word16 bytes[2]! bytes[3]!).toNat = bytes.length ∧
      word32 bytes[4]! bytes[5]! bytes[6]! bytes[7]! = x ∧
      (∀ p, m = .packetOut p →
        (word16 bytes[14]! bytes[15]!).toNat = Action.size * p.actions.length) ∧
      (∀ f, m = .flowMod f →
        bytes.drop 72 = Action.encodeAll (Action.controllerLast f.actions)) := by
  obtain ⟨hsize, body, hbody, rfl⟩ := encode_ok h
  have hlen : (Header.encode ⟨v, m.code.toByte, m.size.toUInt16, x⟩ ++ body).length = m.size := by
    simp [Header.encode, encodeBody_length hbody, size, Header.size]
    omega
  refine ⟨hlen, hlen ▸ hsize, rfl, rfl, ?_, ?_, ?_, ?_⟩
  · have h2 : (Header.encode ⟨v, m.code.toByte, m.size.toUInt16, x⟩ ++ body)[2]! =
        (m.size.toUInt16 >>> 8).toUInt8 := rfl
    have h3 : (Header.encode ⟨v, m.code.toByte, m.size.toUInt16, x⟩ ++ body)[3]! =
        m.size.toUInt16.toUInt8 := rfl
    rw [h2, h3, word16_bytes, hlen, toUInt16_toNat_of_le hsize]
  · simp [Header.encode, be16, be32, word32_bytes]
  · rintro p rfl
    cases hbody
    have hacts : Action.size * p.actions.length ≤ maxSize := by
      simp only [size, bodySize, PacketOut.size] at hsize
      omega
    have h14 : (Header.encode ⟨v, (packetOut p).code.toByte, (packetOut p).size.toUInt16, x⟩ ++
        p.encode)[14]! = ((Action.size * p.actions.length).toUInt16 >>> 8).toUInt8 := rfl
    have h15 : (Header.encode ⟨v, (packetOut p).code.toByte, (packetOut p).size.toUInt16, x⟩ ++
        p.encode)[15]! = (Action.size * p.actions.length).toUInt16.toUInt8 := rfl
    rw [h14, h15, word16_bytes, toUInt16_toNat_of_le hacts]
  · rintro f rfl
    rw [encodeBody, FlowMod.encode_eq] at hbody
    split at hbody
    · cases hbody
    · obtain rfl := Except.ok.inj hbody
      have hfixed : (Header.encode ⟨v, (flowMod f).code.toByte, (flowMod f).size.toUInt16, x⟩ ++
          f.fixedBytes).length = 72 := by
        simp [Header.encode, FlowMod.fixedSize]
      rw [← List.append_assoc, List.drop_left' hfixed]

/-- Writing a message fails, as a malformed message, exactly when it is too long for the length
field or is a flow-mod with an output to the flow table; otherwise it gives bytes laid out as
`encode_ok_layout` says. -/
theorem encode_layout (v : UInt8) (x : UInt32) (m : Message) :
    (maxSize < m.size ∨ m.outputsToTable →
      ∃ what reason, encode v x m = .error (.malformed what reason)) ∧
    (¬ (maxSize < m.size ∨ m.outputsToTable) →
      ∃ bytes, encode v x m = .ok bytes ∧
        bytes.length = m.size ∧ bytes.length ≤ maxSize ∧
        bytes[0]? = some v ∧ bytes[1]? = some m.code.toByte ∧
        (word16 bytes[2]! bytes[3]!).toNat = bytes.length ∧
        word32 bytes[4]! bytes[5]! bytes[6]! bytes[7]! = x ∧
        (∀ p, m = .packetOut p →
          (word16 bytes[14]! bytes[15]!).toNat = Action.size * p.actions.length) ∧
        (∀ f, m = .flowMod f →
          bytes.drop 72 = Action.encodeAll (Action.controllerLast f.actions))) := by
  have hiff := encode_eq_error_iff v x m
  cases h : encode v x m with
  | error e =>
    obtain ⟨what, reason, rfl⟩ := encode_error h
    exact ⟨fun _ => ⟨what, reason, rfl⟩, fun hnot => absurd (hiff.1 ⟨_, h⟩) hnot⟩
  | ok bytes =>
    have hok : ¬ (maxSize < m.size ∨ m.outputsToTable) := by
      rw [← hiff]
      rintro ⟨e, he⟩
      rw [h] at he
      cases he
    exact ⟨fun hcond => absurd hcond hok, fun _ => ⟨bytes, rfl, encode_ok_layout h⟩⟩

end Message

end OpenFlow
