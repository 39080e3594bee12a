import OpenFlow.Proofs.Effects

/-!
# Dropped messages

A message whose handling fails without ending the session is dropped: the run logs the error
and reads on. What the failed handling leaves behind depends on where it failed
(`Session.dispatch_error_cases`):

* a body that cannot be read, an error report, a frame whose flow cannot be read: nothing has
  changed yet;
* a write the encoder refuses, the answer to a packet-in or an injection too long for the length
  field: by then the packet's sender is learned, a frame sent on purpose is captured, and an
  answer written before a refused injection stays written.

Either way the session stands where it stood, with its state, version and features
(`Session.dispatch_nonfatal_keeps_standing`). `Session.overlong_flood_learns_sender` is a drop
of the second kind: a packet-in whose frame is too long to flood leaves its sender learned.
-/

namespace OpenFlow

namespace Session

variable {σ : Type}

/-- Handling a message fails in one of three ways: before it changed anything, with an error
that ends the session, or when the encoder refused a message it was to write. -/
theorem dispatch_error_cases (v : Variant σ) (h : Header) (body : List UInt8) (s : Session)
    (w : σ) {e : WireError} (he : ((dispatch v h body).run.run (s, w)).1 = .error e) :
    (dispatch v h body).run.run (s, w) = (.error e, (s, w)) ∨ e.isFatal = true ∨
      e.IsWriteRefusal := by
  have hrefusal : ∀ e : WireError, e.IsWriteRefusal → e.isFatal = true ∨ e.IsWriteRefusal :=
    fun _ => .inr
  have hpipe : (WireError.transportFailure .brokenPipe).isFatal = true ∨
      (WireError.transportFailure .brokenPipe).IsWriteRefusal := .inl rfl
  rcases hparse : Message.parse h body with e' | m
  · have hrun := dispatch_run_of_parse_error v h body hparse (s, w)
    rw [hrun] at he
    obtain rfl := Except.error.inj he
    exact .inl hrun
  cases m with
  | hello =>
    obtain ⟨j, hrun⟩ := dispatch_run_hello v s w hparse
    rw [hrun] at he
    cases he
  | error r =>
    have hrun := dispatch_run_of_errorReport v h body hparse (s, w)
    rw [hrun] at he
    obtain rfl := Except.error.inj he
    exact .inr (.inl rfl)
  | echoRequest d =>
    rw [dispatch_run_echoRequest v s w hparse] at he
    exact .inr (FailsWith.send hrefusal hpipe _ _ _ e he)
  | featuresReply f =>
    by_cases hs : s.state = .connecting
    · rw [dispatch_run_featuresReply_early v s w hparse hs] at he
      cases he
    · obtain ⟨j, hrun⟩ := dispatch_run_featuresReply v s w hparse hs
      rw [hrun] at he
      cases he
  | packetIn p =>
    by_cases hs : s.state = .established
    · rw [dispatch_run_packetIn v s w hparse hs] at he ⊢
      rcases hflow : flowOf? h.xid p with e' | flow?
      · have hrun := packetIn_run_of_error v h.xid p hflow s w
        rw [hrun] at he
        obtain rfl := Except.error.inj he
        exact .inl hrun
      · obtain ⟨j, hrun⟩ := packetIn_run_of_ok v h.xid p hflow s w
        rw [hrun] at he
        exact .inr (((FailsWith.send hrefusal hpipe _ _).bind fun _ =>
          FailsWith.inject hrefusal hpipe v) _ e he)
    · rw [dispatch_run_packetIn_early v s w hparse hs] at he
      cases he
  | _ =>
    rw [dispatch_run_of_not_handled v s w hparse rfl] at he
    cases he

/-- The session a run reaches once it greeted the switch and took a features reply with no
ports: established, knowing no host. -/
def afterFeatures : Session :=
  ((dispatch Variant.plain ⟨1, 6, 32, 1⟩ (List.replicate 24 0)).run.run (greeted, ())).2.1

/-- A packet-in body with a frame of three bytes, too short for an ethernet header. -/
def shortFrameBody : List UInt8 :=
  [0xff, 0xff, 0xff, 0xff, 0x00, 0x03, 0x00, 0x01, 0x00, 0x00, 0x01, 0x02, 0x03]

/-- A message dropped with an error that does not end the session leaves the session standing
where it stood, in its state, with its version and its features. Unless the encoder refused a
message it was to write, it leaves the session, with what it learned and wrote, and the
variant's state exactly as they were. -/
theorem dispatch_nonfatal_keeps_standing (v : Variant σ) (h : Header) (body : List UInt8)
    (s : Session) (w : σ) {e : WireError}
    (he : ((dispatch v h body).run.run (s, w)).1 = .error e) (hnf : e.isFatal = false) :
    ((dispatch v h body).run.run (s, w)).2.1.standing = s.standing ∧
      (¬ e.IsWriteRefusal → (dispatch v h body).run.run (s, w) = (.error e, (s, w))) := by
  refine ⟨?_, fun hnr => ?_⟩
  · rcases dispatch_standing v s w h body with hkeep | ⟨-, hok, -⟩ | ⟨-, -, -, hok, -⟩
    · exact hkeep
    all_goals
      rw [hok] at he
      cases he
  · rcases dispatch_error_cases v h body s w he with hsame | hfatal | hrefused
    · exact hsame
    · rw [hnf] at hfatal
      cases hfatal
    · exact absurd hrefused hnr

theorem short_frame_dropped :
    ((dispatch Variant.plain ⟨1, 10, 21, 7⟩ shortFrameBody).run.run (afterFeatures, ())).1 =
        .error (.truncated "ethernet header" 14 3) ∧
      (WireError.truncated "ethernet header" 14 3).isFatal = false ∧
      ((dispatch Variant.plain ⟨1, 10, 21, 7⟩ shortFrameBody).run.run
          (afterFeatures, ())).2.1.standing = afterFeatures.standing ∧
      (¬ (WireError.truncated "ethernet header" 14 3).IsWriteRefusal →
        (dispatch Variant.plain ⟨1, 10, 21, 7⟩ shortFrameBody).run.run (afterFeatures, ()) =
          (.error (.truncated "ethernet header" 14 3), (afterFeatures, ()))) :=
  ⟨rfl, rfl, dispatch_nonfatal_keeps_standing _ _ _ _ _ rfl rfl⟩

/-! ### A drop after learning

The frame of the long RARP packet-in is never evaluated: each fact about it is proved for its
ethernet header followed by any bytes, since reading the packet-in, its flow and the size of
its flood look at the header alone.
-/

theorem byteAt_append_left {a b : List UInt8} {i : Nat} (h : i < a.length) :
    byteAt (a ++ b) i = byteAt a i := by
  simp only [byteAt, List.getD_eq_getElem?_getD, List.getElem?_append_left h]

theorem need_append {what : String} {a b : List UInt8} {n : Nat} (h : n ≤ a.length) :
    need what (a ++ b) n = .ok () := by
  simp only [need, List.length_append]
  rw [if_neg (by omega)]

/-- The host `aa:aa:aa:aa:aa:01`. -/
def hostA : MacAddr := ⟨0xaa, 0xaa, 0xaa, 0xaa, 0xaa, 0x01⟩

/-- The ethernet header of a RARP broadcast from `hostA`. -/
def rarpHeader : List UInt8 :=
  [0xff, 0xff, 0xff, 0xff, 0xff, 0xff, 0xaa, 0xaa, 0xaa, 0xaa, 0xaa, 0x01, 0x80, 0x35]

/-- A RARP broadcast of 65512 bytes: a packet-in can carry it, a flood of it is a byte longer
than the length field allows. -/
def longRarp : List UInt8 :=
  rarpHeader ++ List.replicate 65498 0

/-- The packet-in of `longRarp`, received on port 1 and held in no buffer. -/
def longRarpIn : PacketIn :=
  ⟨.notBuffered longRarp, 65512, 1, .noMatch⟩

/-- The body of `longRarpIn` on the wire. -/
def longRarpBody : List UInt8 :=
  [0xff, 0xff, 0xff, 0xff, 0xff, 0xe8, 0x00, 0x01, 0x00, 0x00] ++ longRarp

/-- The flow of `longRarpIn`, with transaction id 2. -/
def rarpFlow : Flow :=
  { Flow.empty 2 with
    totalLen := 65512, inPort := 1, dlSrc := hostA,
    dlDst := ⟨0xff, 0xff, 0xff, 0xff, 0xff, 0xff⟩, ethType := 0x8035, l3Offset := 14 }

theorem parse_longRarpBody :
    Message.parse ⟨1, 10, 65530, 2⟩ longRarpBody = .ok (.packetIn longRarpIn) := by
  have hparse : ∀ frame, Message.parse ⟨1, 10, 65530, 2⟩
      ([0xff, 0xff, 0xff, 0xff, 0xff, 0xe8, 0x00, 0x01, 0x00, 0x00] ++ frame) =
        .ok (.packetIn ⟨.notBuffered frame, 65512, 1, .noMatch⟩) := fun _ => rfl
  exact hparse _

theorem flowOf_longRarpIn : flowOf? 2 longRarpIn = .ok (some rarpFlow) := by
  have hrarp : EtherType.ofWire (word16 (byteAt rarpHeader 12) (byteAt rarpHeader 13)) = .rarp := by
    decide
  have hflow : ∀ rest, flowOf? 2 ⟨.notBuffered (rarpHeader ++ rest), 65512, 1, .noMatch⟩ =
      .ok (some rarpFlow) := by
    intro rest
    simp (disch := decide) only [flowOf?, Flow.ofPacketIn, Payload.data, macAt, word16At,
      need_append, byteAt_append_left, Nat.reduceAdd, hrarp, reduceCtorEq, if_false]
    rfl
  exact hflow _

theorem encode_flood_longRarpIn (v : UInt8) (x : UInt32) :
    Message.encode v x (.packetOut (flood longRarpIn)) =
      .error (.malformed "message" "65536 bytes exceeds the length field") := by
  have hsizes : ∀ rest : List UInt8,
      (Message.packetOut (flood ⟨.notBuffered (rarpHeader ++ rest), 65512, 1, .noMatch⟩)).size =
        38 + rest.length := by
    intro rest
    have hheader : rarpHeader.length = 14 := rfl
    simp only [Message.size, Message.bodySize, PacketOut.size, flood, PacketOut.carriedData,
      List.length_append, List.length_singleton, hheader, Header.size, PacketOut.fixedSize,
      Action.size]
    omega
  have hsize : (Message.packetOut (flood longRarpIn)).size = 65536 := by
    rw [longRarpIn, longRarp, hsizes]
    simp only [List.length_replicate]
  rw [Message.encode_eq, hsize]
  rfl

/-- A packet-in whose frame is too long to flood is dropped after its sender was learned: the
session reached by a features reply floods a RARP broadcast of 65512 bytes, the encoder refuses
the flood, and the table, empty before, keeps the sender. -/
theorem overlong_flood_learns_sender :
    ((dispatch Variant.plain ⟨1, 10, 65530, 2⟩ longRarpBody).run.run (afterFeatures, ())).1 =
        .error (.malformed "message" "65536 bytes exceeds the length field") ∧
      afterFeatures.table = LearningTable.empty ∧
      ((dispatch Variant.plain ⟨1, 10, 65530, 2⟩ longRarpBody).run.run
        (afterFeatures, ())).2.1.table = ⟨[(hostA, 1)]⟩ := by
  have hest : afterFeatures.state = .established := rfl
  have hsend : ∀ (x : UInt32) (s : Session) (w : Unit),
      (send x (.packetOut (flood longRarpIn))).run.run (s, w) =
        (.error (.malformed "message" "65536 bytes exceeds the length field"), (s, w)) := by
    intro x s w
    rw [run_send, encode_flood_longRarpIn]
  obtain ⟨j, hrun⟩ := packetIn_run_of_ok Variant.plain (⟨1, 10, 65530, 2⟩ : Header).xid
    longRarpIn flowOf_longRarpIn afterFeatures ()
  rw [dispatch_run_packetIn Variant.plain afterFeatures () parse_longRarpBody hest, hrun]
  rw [show answer (learnFrom afterFeatures.table (some rarpFlow)) longRarpIn (some rarpFlow) =
    .packetOut (flood longRarpIn) from rfl, run_bind_error (hsend _ _ _)]
  exact ⟨rfl, rfl, rfl⟩

end Session

end OpenFlow
