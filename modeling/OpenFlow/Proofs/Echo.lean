import OpenFlow.Proofs.Effects

/-!
# Echo requests, and the messages left alone

Of the message types a switch may send, the controller answers one without looking at where the
session stands: an echo request is answered by an echo reply that carries its data back, under
its transaction id and in the version the session speaks (`Message.encode_echoReply`). A request
read from a whole frame always fits the length field again, so the reply is always written on a
working link, and nothing else changes but the log.

The controller acts on error reports, features replies and packet-ins too. Every other type is
left alone: a hello only lowers the version the session speaks, and an echo reply, a features
request, a packet-out, a flow-mod and the thirteen types whose bodies are not read change
nothing but the log. A body that cannot be read is refused with the decoder's failure, and
nothing changes either. `Session.dispatch_echoes_and_ignores` states both.
-/

namespace OpenFlow

namespace Message

variable {h : Header} {body : List UInt8} {c : MsgCode}

/-- A body is read as a message of the type its header names. -/
theorem code_of_parse {m : Message} (hcode : h.code = .ok c) (hparse : parse h body = .ok m) :
    m.code = c := by
  rw [parse, hcode, except_ok_bind] at hparse
  cases c
  case error | featuresReply | packetIn | packetOut | flowMod =>
    obtain ⟨_, -, hm⟩ := except_ok_of_bind hparse
    cases hm
    rfl
  all_goals
    cases hparse
    rfl

theorem parse_of_hello (hcode : h.code = .ok .hello) : parse h body = .ok .hello := by
  rw [parse, hcode]
  rfl

theorem parse_of_echoRequest (htype : h.typeCode = MsgCode.echoRequest.toByte) :
    parse h body = .ok (.echoRequest body) := by
  rw [parse, show h.code = .ok .echoRequest from MsgCode.ofByte_eq_ok.2 htype.symm]
  rfl

/-- The messages that handling does more than log are of the four types acted on, or hellos. -/
theorem isHandled_of_code {m : Message} (hc : m.code ∉ [.error, .echoRequest, .featuresReply,
    .packetIn]) (hhello : m.code ≠ .hello) : m.isHandled = false := by
  cases m
  case hello => exact absurd rfl hhello
  case error | echoRequest | featuresReply | packetIn => exact absurd (by simp [code]) hc
  all_goals rfl

/-- An echo reply is written as its header, with the length of the data and eight bytes more,
and then the data; it is refused only when that length does not fit the length field. -/
theorem encode_echoReply (v : UInt8) (x : UInt32) {d : List UInt8}
    (hfits : Header.size + d.length ≤ maxSize) :
    encode v x (.echoReply d) =
      .ok (Header.encode ⟨v, MsgCode.echoReply.toByte, (Header.size + d.length).toUInt16, x⟩ ++ d) := by
  rw [encode_eq, if_neg (show ¬ maxSize < (echoReply d).size from Nat.not_lt.mpr hfits)]
  rfl

end Message

namespace Session

variable {σ : Type} (v : Variant σ) (s : Session) (w : σ) {h : Header} {body : List UInt8}

/-- An echo request of a whole frame is answered by its echo reply, written under its
transaction id in the session's version when the link accepts writes. -/
theorem dispatch_run_echoRequest_frame (htype : h.typeCode = MsgCode.echoRequest.toByte)
    (hlen : h.length.toNat = Header.size + body.length) :
    ∃ j, (dispatch v h body).run.run (s, w) =
      if s.link.writeFails then (.error (.transportFailure .brokenPipe), ({ s with journal := j }, w))
      else (.ok (), ({ s with
        link := s.link.write (Header.encode ⟨s.version, MsgCode.echoReply.toByte,
          (Header.size + body.length).toUInt16, h.xid⟩ ++ body),
        journal := j }, w)) := by
  have hfits : Header.size + body.length ≤ Message.maxSize := by
    have := h.length.toNat_lt
    unfold Message.maxSize
    omega
  rw [dispatch_run_echoRequest v s w (Message.parse_of_echoRequest htype), run_send,
    Message.encode_echoReply _ _ hfits]
  exact ⟨_, rfl⟩

/-- A message of a type that is not acted on changes nothing but the log, and for a hello the
version: a hello of an older version lowers the version the session speaks to it. A body that
cannot be read is refused, and then nothing changes either. -/
theorem dispatch_run_ignored {c : MsgCode} (hcode : h.code = .ok c)
    (hc : c ∉ [.error, .echoRequest, .featuresReply, .packetIn]) :
    ∃ j, (dispatch v h body).run.run (s, w) = ((Message.parse h body).map fun _ => (),
      ({ s with version := if c = .hello ∧ h.version < s.version then h.version else s.version,
                journal := j }, w)) := by
  by_cases hhello : c = .hello
  · subst hhello
    obtain ⟨j, hrun⟩ := dispatch_run_hello v s w (Message.parse_of_hello hcode)
    refine ⟨j, ?_⟩
    rw [hrun, Message.parse_of_hello hcode]
    simp only [true_and, except_map_ok]
  · simp only [hhello, false_and, if_false]
    rcases hparse : Message.parse h body with e | m
    · exact ⟨s.journal, by rw [dispatch_run_of_parse_error v h body hparse]; rfl⟩
    · have hm := Message.code_of_parse hcode hparse
      rw [← hm] at hc hhello
      exact ⟨_, dispatch_run_of_not_handled v s w hparse (Message.isHandled_of_code hc hhello)⟩

/-- Handling an echo request of a whole frame writes exactly one message, the echo reply with
the request's data and transaction id, in the version the session speaks and with the length
field `8 + |data|`, which that length always fits; a link that refuses writes fails the step
instead. Nothing else changes but the log: not where the session stands, not the learned
hosts, not the variant's state. A message of any type that is not acted on (anything but an
error report, an echo request, a features reply or a packet-in) writes nothing and changes
nothing but the log, and for a hello the version. -/
theorem dispatch_echoes_and_ignores (h : Header) (body : List UInt8) :
    (h.typeCode = MsgCode.echoRequest.toByte → h.length.toNat = Header.size + body.length →
      (Header.size + body.length).toUInt16.toNat = Header.size + body.length ∧
      ∃ j, (dispatch v h body).run.run (s, w) =
        if s.link.writeFails then
          (.error (.transportFailure .brokenPipe), ({ s with journal := j }, w))
        else (.ok (), ({ s with
          link := s.link.write (Header.encode ⟨s.version, MsgCode.echoReply.toByte,
            (Header.size + body.length).toUInt16, h.xid⟩ ++ body),
          journal := j }, w))) ∧
      (∀ c, h.code = .ok c → c ∉ [.error, .echoRequest, .featuresReply, .packetIn] →
        ∃ j, (dispatch v h body).run.run (s, w) = ((Message.parse h body).map fun _ => (),
          ({ s with version := if c = .hello ∧ h.version < s.version then h.version else s.version,
                    journal := j }, w))) := by
  refine ⟨fun htype hlen => ⟨?_, dispatch_run_echoRequest_frame v s w htype hlen⟩,
    fun c hcode hc => dispatch_run_ignored v s w hcode hc⟩
  rw [← hlen]
  simp [Nat.toUInt16]

/-- An echo request with four bytes of data, under transaction id 5. -/
def echoRequestHeader : Header :=
  ⟨1, MsgCode.echoRequest.toByte, 12, 5⟩

/-- A hello of version 0, under transaction id 6. -/
def oldHelloHeader : Header :=
  ⟨0, MsgCode.hello.toByte, 8, 6⟩

theorem echo_answered_hello_kept :
    (echoRequestHeader.typeCode = MsgCode.echoRequest.toByte ∧
      echoRequestHeader.length.toNat = Header.size + [1, 2, 3, 4].length ∧
      (Header.size + [1, 2, 3, 4].length).toUInt16.toNat = Header.size + [1, 2, 3, 4].length ∧
      ∃ j, (dispatch (Variant.plain : Variant Unit) echoRequestHeader [1, 2, 3, 4]).run.run
          ({}, ()) =
        if ({} : Session).link.writeFails then
          (.error (.transportFailure .brokenPipe), ({ ({} : Session) with journal := j }, ()))
        else (.ok (), ({ ({} : Session) with
          link := ({} : Session).link.write (Header.encode ⟨({} : Session).version,
            MsgCode.echoReply.toByte, (Header.size + [1, 2, 3, 4].length).toUInt16,
            echoRequestHeader.xid⟩ ++ [1, 2, 3, 4]),
          journal := j }, ()))) ∧
    (oldHelloHeader.code = .ok .hello ∧ MsgCode.hello ∉ [.error, .echoRequest, .featuresReply, .packetIn] ∧
      ∃ j, (dispatch (Variant.plain : Variant Unit) oldHelloHeader []).run.run ({}, ()) =
        ((Message.parse oldHelloHeader []).map fun _ => (),
          ({ ({} : Session) with
            version := if MsgCode.hello = .hello ∧ oldHelloHeader.version < ({} : Session).version
              then oldHelloHeader.version else ({} : Session).version,
            journal := j }, ()))) :=
  ⟨⟨rfl, rfl, (dispatch_echoes_and_ignores Variant.plain {} () echoRequestHeader [1, 2, 3, 4]).1
      rfl rfl⟩,
    ⟨rfl, by decide,
      (dispatch_echoes_and_ignores Variant.plain {} () oldHelloHeader []).2 .hello rfl (by decide)⟩⟩

end Session

end OpenFlow
