import OpenFlow.Proofs.RoundTrip
import OpenFlow.Frame.Flow

/-!
# Faults of a message body

What can go wrong while reading a message. A body that is too short or holds a value the
protocol does not allow is a fault of the body (`WireError.isBodyFault`): the controller drops
such a message and goes on. Reading a body never fails otherwise: `Message.parse_error` says
that it fails with a protocol violation only for a type byte above 21, and with a fault of the
body in every other case; in particular it never reports a failed link, a bad match length or a
bad hardware address. The frame carried by a packet-in is read the same way, except that an
unknown ethernet type is reported as such (`Flow.ofPacketIn_error`).

The decoders built from byte reads fail only by running out of bytes. The class
`Decoder.BodyFaultsOnly` records that of a decoder, and its instances derive it for every
decoder written with `do` from the reads it is made of.
-/

namespace OpenFlow

/-- A fault of a message body: it is too short, or a field holds a value the protocol does not
allow. Such a fault drops the message and never ends a session. -/
def WireError.isBodyFault : WireError → Bool
  | .truncated .. | .malformed .. => true
  | _ => false

theorem WireError.not_isFatal_of_isBodyFault {e : WireError} (h : e.isBodyFault) :
    e.isFatal = false := by
  cases e <;> simp_all [isBodyFault, isFatal]

/-! ### Decoders -/

namespace Decoder

/-- A decoder whose failures are faults of the body. -/
class BodyFaultsOnly {α : Type} (d : Decoder α) : Prop where
  faults : ∀ bs e, d.run bs = .error e → e.isBodyFault

variable {α β : Type}

instance {d : Decoder α} {k : α → Decoder β} [BodyFaultsOnly d] [∀ a, BodyFaultsOnly (k a)] :
    BodyFaultsOnly (d >>= k) where
  faults bs e h := by
    rw [run_bind] at h
    rcases hd : d.run bs with e' | ⟨a, rest⟩ <;> rw [hd] at h
    · cases h
      exact BodyFaultsOnly.faults bs _ hd
    · exact BodyFaultsOnly.faults rest e h

instance (a : α) : BodyFaultsOnly (pure a : Decoder α) where
  faults _ _ h := nomatch h

instance : BodyFaultsOnly byte where
  faults bs e h := by
    cases bs with
    | nil => cases h; rfl
    | cons b rest => cases h

instance (n : Nat) : BodyFaultsOnly (take n) where
  faults bs e h := by
    simp only [StateT.run, take] at h
    split at h
    · cases h
    · cases h; rfl

instance (n : Nat) : BodyFaultsOnly (skip n) where
  faults _ _ h := nomatch h

instance : BodyFaultsOnly u16 := by unfold u16; infer_instance

instance : BodyFaultsOnly u32 := by unfold u32; infer_instance

instance : BodyFaultsOnly u64 := by unfold u64; infer_instance

theorem decode_error {d : Decoder α} [BodyFaultsOnly d] {bs : List UInt8} {e : WireError}
    (h : decode d bs = .error e) : e.isBodyFault := by
  rcases hd : d.run bs with e' | ⟨a, rest⟩ <;> rw [decode, hd] at h
  · cases h
    exact BodyFaultsOnly.faults bs _ hd
  · cases h

end Decoder

instance : Decoder.BodyFaultsOnly MacAddr.decoder := by
  unfold MacAddr.decoder; infer_instance

instance : Decoder.BodyFaultsOnly Match.decoder := by
  unfold Match.decoder; infer_instance

instance : Decoder.BodyFaultsOnly PortDesc.decoder := by
  unfold PortDesc.decoder; infer_instance

instance SwitchFeatures.portsDecoder_bodyFaultsOnly :
    (n : Nat) → Decoder.BodyFaultsOnly (SwitchFeatures.portsDecoder n)
  | 0 => inferInstanceAs (Decoder.BodyFaultsOnly (pure []))
  | n + 1 => by
    have := SwitchFeatures.portsDecoder_bodyFaultsOnly n
    unfold SwitchFeatures.portsDecoder
    infer_instance

/-! ### Fields and bodies -/

theorem PseudoPort.make_error {p maxLen : UInt16} {e : WireError}
    (h : PseudoPort.make p maxLen = .error e) : e.isBodyFault := by
  unfold PseudoPort.make at h
  repeat' split at h
  all_goals cases h
  rfl

theorem PseudoPort.ofWire?_error {p : UInt16} {e : WireError}
    (h : PseudoPort.ofWire? p = .error e) : e.isBodyFault := by
  unfold PseudoPort.ofWire? at h
  split at h
  · cases h
  · rcases hmake : PseudoPort.make p 0 with e' | port <;> rw [hmake] at h <;> cases h
    exact PseudoPort.make_error hmake

theorem Action.decodeAll_error {bs : List UInt8} {e : WireError}
    (h : Action.decodeAll bs = .error e) : e.isBodyFault := by
  fun_induction Action.decodeAll bs with
  | case1 => cases h
  | case2 | case3 | case4 | case5 | case6 | case8 => cases h; rfl
  | case7 _ _ _ _ _ _ _ _ _ _ _ _ _ ih =>
    rcases except_error_of_bind h with hmake | ⟨_, _, h⟩
    · exact PseudoPort.make_error hmake
    rcases except_error_of_bind h with htail | ⟨_, _, h⟩
    · exact ih htail
    · cases h

theorem FlowModCommand.ofWire_error {n : UInt16} {e : WireError}
    (h : FlowModCommand.ofWire n = .error e) : e.isBodyFault := by
  unfold FlowModCommand.ofWire at h
  split at h <;> cases h
  rfl

/-- Forty bytes always read as a match: its fields take exactly that many. -/
theorem Match.decode_error {bs : List UInt8} {e : WireError} (hlen : bs.length = Match.size)
    (h : Match.decode bs = .error e) : e.isBodyFault := by
  rw [Match.decode, if_pos hlen] at h
  exact Decoder.decode_error h

theorem ErrorMsg.decode_error {bs : List UInt8} {e : WireError}
    (h : ErrorMsg.decode bs = .error e) : e.isBodyFault := by
  unfold ErrorMsg.decode at h
  split at h
  · cases h
  · cases h; rfl

theorem ErrorMsg.decode_ok_length {bs : List UInt8} {e : ErrorMsg}
    (h : ErrorMsg.decode bs = .ok e) : 4 ≤ bs.length := by
  unfold ErrorMsg.decode at h
  split at h
  · simp
  · cases h

theorem SwitchFeatures.decode_error {bs : List UInt8} {e : WireError}
    (h : SwitchFeatures.decode bs = .error e) : e.isBodyFault := by
  unfold SwitchFeatures.decode at h
  split at h
  · cases h; rfl
  dsimp only at h
  split at h
  · cases h; rfl
  exact Decoder.decode_error h

theorem PacketIn.decode_error {bs : List UInt8} {e : WireError}
    (h : PacketIn.decode bs = .error e) : e.isBodyFault := by
  unfold PacketIn.decode at h
  split at h
  · rcases except_error_of_bind h with hreason | ⟨_, _, h⟩
    · unfold PacketInReason.ofByte at hreason
      split at hreason
      · cases hreason
      split at hreason
      · cases hreason
      · cases hreason; rfl
    · cases h
  · cases h; rfl

theorem PacketOut.decode_error {bs : List UInt8} {e : WireError}
    (h : PacketOut.decode bs = .error e) : e.isBodyFault := by
  unfold PacketOut.decode at h
  split at h
  · dsimp only at h
    split at h
    · cases h; rfl
    · exact Action.decodeAll_error (except_error_of_bind_pure h)
  · cases h; rfl

theorem FlowMod.decode_error {bs : List UInt8} {e : WireError}
    (h : FlowMod.decode bs = .error e) : e.isBodyFault := by
  unfold FlowMod.decode at h
  split at h
  · cases h; rfl
  rename_i hlong
  have hmatch : (bs.take Match.size).length = Match.size := by
    simp only [List.length_take, Match.size, FlowMod.fixedSize] at hlong ⊢
    omega
  rcases except_error_of_bind h with hpattern | ⟨_, _, h⟩
  · exact Match.decode_error hmatch hpattern
  rcases except_error_of_bind h with hfixed | ⟨_, _, h⟩
  · exact Decoder.decode_error hfixed
  rcases except_error_of_bind h with hcommand | ⟨_, _, h⟩
  · exact FlowModCommand.ofWire_error hcommand
  rcases except_error_of_bind h with hport | ⟨_, _, h⟩
  · exact PseudoPort.ofWire?_error hport
  · exact Action.decodeAll_error (except_error_of_bind_pure h)

/-! ### Message types and messages -/

namespace MsgCode

theorem ofByte_eq_error {b : UInt8} {e : WireError} :
    ofByte b = .error e ↔
      21 < b.toNat ∧ e = .protocolViolation ("unknown message type " ++ toString b.toNat) := by
  have hlen : all.length = 22 := rfl
  unfold ofByte ofByte?
  constructor
  · intro h
    split at h
    · cases h
    · rename_i hnone
      cases h
      exact ⟨by rw [List.getElem?_eq_none_iff] at hnone; omega, rfl⟩
  · rintro ⟨hb, rfl⟩
    rw [List.getElem?_eq_none_iff.2 (by omega)]

/-- A type byte names exactly the type it is the byte of. -/
theorem ofByte_eq_ok {b : UInt8} {c : MsgCode} : ofByte b = .ok c ↔ c.toByte = b := by
  constructor
  · intro h
    unfold ofByte ofByte? at h
    split at h
    · rename_i c' hc'
      cases h
      obtain ⟨hlt, hget⟩ := List.getElem?_eq_some_iff.1 hc'
      have hbyte : ∀ i : Fin 22, (all.get (i.cast rfl)).toByte.toNat = i.val := by decide
      apply UInt8.toNat_inj.1
      rw [← hget]
      exact hbyte ⟨b.toNat, hlt⟩
    · cases h
  · rintro rfl
    exact ofByte_toByte c

end MsgCode

namespace Message

/-- Reading a body fails with a protocol violation only for a type byte above 21; any other
failure is a fault of the body. -/
theorem parse_error {h : Header} {body : List UInt8} {e : WireError}
    (hparse : parse h body = .error e) :
    (21 < h.typeCode.toNat ∧ ∃ r, e = .protocolViolation r) ∨ e.isBodyFault := by
  unfold parse at hparse
  rcases except_error_of_bind hparse with hcode | ⟨c, _, hparse⟩
  · obtain ⟨hbig, rfl⟩ := MsgCode.ofByte_eq_error.1 hcode
    exact .inl ⟨hbig, _, rfl⟩
  right
  cases c with
  | error => exact ErrorMsg.decode_error (except_error_of_bind_pure hparse)
  | featuresReply => exact SwitchFeatures.decode_error (except_error_of_bind_pure hparse)
  | packetIn => exact PacketIn.decode_error (except_error_of_bind_pure hparse)
  | packetOut => exact PacketOut.decode_error (except_error_of_bind_pure hparse)
  | flowMod => exact FlowMod.decode_error (except_error_of_bind_pure hparse)
  | _ => cases hparse

/-- A type byte above 21 is a protocol violation, whatever the body. -/
theorem parse_unknownType {h : Header} (body : List UInt8) (hbig : 21 < h.typeCode.toNat) :
    ∃ r, parse h body = .error (.protocolViolation r) := by
  have hcode : h.code = .error (.protocolViolation
      ("unknown message type " ++ toString h.typeCode.toNat)) :=
    MsgCode.ofByte_eq_error.2 ⟨hbig, rfl⟩
  exact ⟨_, by rw [parse, hcode]; rfl⟩

/-- A switch's error report is read from a body of at least four bytes under type byte 1, and
only there. -/
theorem parse_eq_errorReport {h : Header} {body : List UInt8} {e : ErrorMsg}
    (hparse : parse h body = .ok (.error e)) : h.typeCode = 1 ∧ 4 ≤ body.length := by
  unfold parse at hparse
  obtain ⟨c, hc, hparse⟩ := except_ok_of_bind hparse
  have htype := MsgCode.ofByte_eq_ok.1 hc
  cases c with
  | error =>
    obtain ⟨_, hdecode, _⟩ := except_ok_of_bind hparse
    exact ⟨htype.symm, ErrorMsg.decode_ok_length hdecode⟩
  | featuresReply | packetIn | packetOut | flowMod =>
    obtain ⟨_, _, hparse⟩ := except_ok_of_bind hparse
    cases hparse
  | _ => cases hparse

theorem parse_errorReport {h : Header} {body : List UInt8} (htype : h.typeCode = 1)
    (hlen : 4 ≤ body.length) : ∃ e, parse h body = .ok (.error e) := by
  have hcode : h.code = .ok .error := MsgCode.ofByte_eq_ok.2 htype.symm
  match body, hlen with
  | t0 :: t1 :: c0 :: c1 :: data, _ =>
    exact ⟨_, by rw [parse, hcode]; rfl⟩

end Message

/-! ### Frames of packet-ins -/

theorem need_error {what : String} {frame : List UInt8} {len : Nat} {e : WireError}
    (h : need what frame len = .error e) : e.isBodyFault := by
  unfold need at h
  split at h
  · cases h; rfl
  · cases h

namespace Flow

theorem withArp_error {f : Flow} {frame : List UInt8} {e : WireError}
    (h : f.withArp frame = .error e) : e.isBodyFault := by
  unfold withArp at h
  rcases except_error_of_bind h with hneed | ⟨_, _, h⟩
  · exact need_error hneed
  · dsimp only at h
    split at h <;> cases h

theorem withIpv4_error {f : Flow} {frame : List UInt8} {e : WireError}
    (h : f.withIpv4 frame = .error e) : e.isBodyFault := by
  unfold withIpv4 at h
  rcases except_error_of_bind h with hneed | ⟨_, _, h⟩
  · exact need_error hneed
  · simp only at h
    split at h <;> split at h <;> cases h

/-- Reading a packet-in's frame fails only as a fault of the body or on an unknown ethernet
type. -/
theorem ofPacketIn_error {xid : UInt32} {pi : PacketIn} {e : WireError}
    (h : ofPacketIn xid pi = .error e) : e.isBodyFault ∨ ∃ t, e = .unknownEtherType t := by
  unfold ofPacketIn at h
  simp only at h
  rcases except_error_of_bind h with hneed | ⟨_, _, h⟩
  · exact .inl (need_error hneed)
  split at h
  case' isTrue =>
    rcases except_error_of_bind h with hneed | ⟨_, _, h⟩
    · exact .inl (need_error hneed)
  all_goals
    simp only [except_pure, except_ok_bind] at h
    split at h
    · exact .inl (withArp_error h)
    · exact .inl (withIpv4_error h)
    all_goals first
      | exact .inr ⟨_, (Except.error.inj h).symm⟩
      | cases h

end Flow

end OpenFlow
