import OpenFlow.Proofs.Faults

/-!
# The wire grammar of message bodies

Which bodies `Message.parse` accepts, said byte by byte without its decoders (`Message.IsBody`):
a type byte of at most 21, and then by the type it names

* an error report of at least four bytes (`ErrorMsg.IsBody`);
* a features reply of 24 fixed bytes and whole 48-byte port descriptions
  (`SwitchFeatures.IsBody`);
* a packet-in of ten fixed bytes whose reason byte is 0 or 1 (`PacketIn.IsBody`);
* a packet-out whose eight fixed bytes are followed by as many bytes of valid actions as its
  action length announces (`PacketOut.IsBody`);
* a flow-mod of 64 fixed bytes with a command of at most 4 and an output port that names a port
  or none, followed by valid actions to the end (`FlowMod.IsBody`);

and any body at all for the other types. An action is valid when it is eight bytes of type 0 and
length 8 naming a physical port up to `0xff00` or a reserved port `0xfff8` to `0xfffe`
(`Action.IsValidBytes`, `Action.IsValidList`).

The main statement is `Message.parse_succeeds_iff_isBody`: reading a body succeeds exactly on
the grammar; a type byte above 21 is a protocol violation; a features reply holds one port for
each 48 bytes after the fixed ones, each read from its own 48 bytes; and a packet-out's frame is
everything after its actions.

Decoders that read a fixed number of bytes whatever they hold are recorded by `Decoder.Takes`,
whose instances cover every decoder made of byte reads; the rest of the grammar comes from one
lemma per field decoder (`PseudoPort.make_succeeds_iff`, `FlowModCommand.ofWire_succeeds_iff`)
and the action loop (`Action.decodeAll_succeeds_iff`, by induction along the loop).
-/

namespace OpenFlow

/-! ### Bound computations that succeed -/

theorem except_bind_succeeds_iff {ε α β : Type} (x : Except ε α) (k : α → Except ε β) :
    (∃ b, (x >>= k) = .ok b) ↔ ∃ a, x = .ok a ∧ ∃ b, k a = .ok b := by
  cases x with
  | error e => exact ⟨(fun ⟨_, h⟩ => nomatch h), (fun ⟨_, h, _⟩ => nomatch h)⟩
  | ok a => simp

theorem except_map_succeeds_iff {ε α β : Type} (x : Except ε α) (f : α → β) :
    (∃ b, x.map f = .ok b) ↔ ∃ a, x = .ok a := by
  cases x with
  | error e => exact ⟨(fun ⟨_, h⟩ => nomatch h), (fun ⟨_, h⟩ => nomatch h)⟩
  | ok a => simp [Except.map]

/-! ### Decoders of a fixed width -/

namespace Decoder

/-- A decoder that reads exactly `n` bytes: from `n` bytes and whatever follows them it reads a
value that depends on those bytes alone, leaves what follows, and never fails. -/
class Takes {α : Type} (d : Decoder α) (n : outParam Nat) : Prop where
  run_append : ∀ bs, bs.length = n → ∃ a, ∀ rest, d.run (bs ++ rest) = .ok (a, rest)

variable {α β : Type}

instance (a : α) : Takes (pure a : Decoder α) 0 where
  run_append bs h := ⟨a, fun rest => by rw [List.length_eq_zero_iff.1 h]; rfl⟩

instance {d : Decoder α} {k : α → Decoder β} {n m : Nat} [Takes d n] [∀ a, Takes (k a) m] :
    Takes (d >>= k) (n + m) where
  run_append bs h := by
    obtain ⟨a, ha⟩ : ∃ a, ∀ rest, d.run (bs.take n ++ rest) = .ok (a, rest) :=
      Takes.run_append _ (by simp; omega)
    obtain ⟨b, hb⟩ : ∃ b, ∀ rest, (k a).run (bs.drop n ++ rest) = .ok (b, rest) :=
      Takes.run_append _ (by simp; omega)
    refine ⟨b, fun rest => ?_⟩
    rw [← List.take_append_drop n bs, List.append_assoc, run_bind, ha]
    exact hb rest

instance : Takes byte 1 where
  run_append bs h := by
    match bs, h with
    | [b], _ => exact ⟨b, fun _ => rfl⟩

instance (n : Nat) : Takes (skip n) n where
  run_append bs h := ⟨(), fun rest => by simp [h]⟩

instance (n : Nat) : Takes (take n) n where
  run_append bs h := ⟨bs, fun rest => by simp [StateT.run, take, h]⟩

instance : Takes u16 2 := by unfold u16; infer_instance

instance : Takes u32 4 := by unfold u32; infer_instance

instance : Takes u64 8 := by unfold u64; infer_instance

variable {n : Nat}

/-- A fixed-width decoder reads its value from the first `n` bytes of a longer buffer and leaves
the others. -/
theorem Takes.run_of_le (d : Decoder α) [Takes d n] {bs : List UInt8} (h : n ≤ bs.length) :
    ∃ a, d.run bs = .ok (a, bs.drop n) ∧ d.run (bs.take n) = .ok (a, []) := by
  obtain ⟨a, ha⟩ : ∃ a, ∀ rest, d.run (bs.take n ++ rest) = .ok (a, rest) :=
    Takes.run_append _ (by simp; omega)
  refine ⟨a, ?_, ?_⟩
  · have := ha (bs.drop n)
    rwa [List.take_append_drop] at this
  · simpa using ha []

/-- After a fixed-width decoder, decoding goes on from its value on the rest of the buffer. -/
theorem Takes.decode_bind (d : Decoder α) [Takes d n] {k : α → Decoder β} {bs : List UInt8}
    {r : Except WireError β} (h : n ≤ bs.length) (hr : decode (d >>= k) bs = r) :
    ∃ a, decode (k a) (bs.drop n) = r := by
  obtain ⟨a, ha, -⟩ := Takes.run_of_le d h
  refine ⟨a, ?_⟩
  rw [← hr, decode, decode, run_bind, ha]

theorem u16_decode_bind {k : UInt16 → Decoder β} {bs : List UInt8} {r : Except WireError β}
    (h : 2 ≤ bs.length) (hr : decode (u16 >>= k) bs = r) :
    decode (k (word16At bs 0)) (bs.drop 2) = r := by
  match bs, h with
  | b₀ :: b₁ :: rest, _ => exact hr

end Decoder

instance : Decoder.Takes MacAddr.decoder 6 := by unfold MacAddr.decoder; infer_instance

instance : Decoder.Takes Match.decoder Match.size := by unfold Match.decoder; infer_instance

instance : Decoder.Takes PortDesc.decoder PortDesc.size := by
  unfold PortDesc.decoder; infer_instance

/-! ### Bytes at an offset -/

theorem byteAt_drop (bs : List UInt8) (n i : Nat) : byteAt (bs.drop n) i = byteAt bs (n + i) := by
  simp [byteAt, List.getD_eq_getElem?_getD, List.getElem?_drop]

theorem byteAt_take {bs : List UInt8} {n i : Nat} (h : i < n) :
    byteAt (bs.take n) i = byteAt bs i := by
  simp [byteAt, List.getD_eq_getElem?_getD, List.getElem?_take_of_lt h]

theorem word16At_drop (bs : List UInt8) (n i : Nat) :
    word16At (bs.drop n) i = word16At bs (n + i) := by
  simp only [word16At, byteAt_drop, Nat.add_assoc]

theorem word16At_take {bs : List UInt8} {n i : Nat} (h : i + 1 < n) :
    word16At (bs.take n) i = word16At bs i := by
  simp only [word16At, byteAt_take h, byteAt_take (Nat.lt_of_succ_lt h)]

@[simp] theorem word16At_cons_cons (a b : UInt8) (rest : List UInt8) :
    word16At (a :: b :: rest) 0 = word16 a b := rfl

/-! ### Ports and actions -/

namespace PseudoPort

/-- The numbers a port field may name: a physical port up to `0xff00`, or one of the reserved
ports `0xfff8` to `0xfffe`. -/
def IsValidNumber (p : UInt16) : Prop :=
  p ≤ maxPhysical ∨ (0xfff8 ≤ p ∧ p ≤ 0xfffe)

instance : DecidablePred IsValidNumber := fun _ => inferInstanceAs (Decidable (_ ∨ _))

theorem make_succeeds_iff (p maxLen : UInt16) : (∃ q, make p maxLen = .ok q) ↔ IsValidNumber p := by
  unfold make IsValidNumber maxPhysical
  have := p.toNat_lt
  repeat' split
  all_goals simp only [UInt16.le_iff_toNat_le, ← UInt16.toNat_inj, UInt16.reduceToNat] at *
  all_goals simp
  all_goals omega

/-- An output port field reads as a port or as none exactly for a valid number or `0xffff`. -/
theorem ofWire?_succeeds_iff (p : UInt16) :
    (∃ q, ofWire? p = .ok q) ↔ p ≤ maxPhysical ∨ 0xfff8 ≤ p := by
  unfold ofWire?
  split
  · rename_i hnone
    simp only [noPort] at hnone
    simp [hnone]
  · rename_i hsome
    have := p.toNat_lt
    rw [except_map_succeeds_iff, make_succeeds_iff, IsValidNumber]
    simp only [noPort, maxPhysical, UInt16.le_iff_toNat_le, ← UInt16.toNat_inj,
      UInt16.reduceToNat] at hsome ⊢
    omega

end PseudoPort

namespace Action

/-- Eight bytes that read as an output action: type 0, length 8 and a valid port number. -/
def IsValidBytes (c : List UInt8) : Prop :=
  c.length = size ∧ word16At c 0 = 0 ∧ word16At c 2 = 8 ∧ PseudoPort.IsValidNumber (word16At c 4)

/-- Actions one after the other: whole eight-byte actions, each of them valid. -/
def IsValidList (bs : List UInt8) : Prop :=
  bs.length % size = 0 ∧ ∀ i < bs.length / size, IsValidBytes ((bs.drop (size * i)).take size)

instance : DecidablePred IsValidBytes := fun _ => inferInstanceAs (Decidable (_ ∧ _ ∧ _ ∧ _))

instance : DecidablePred IsValidList := fun _ => inferInstanceAs (Decidable (_ ∧ _))

theorem isValidList_nil : IsValidList [] := by
  simp [IsValidList]

/-- A list of actions is valid when its first eight bytes are a valid action and the rest is a
valid list. -/
theorem isValidList_append {c more : List UInt8} (hc : c.length = size) :
    IsValidList (c ++ more) ↔ IsValidBytes c ∧ IsValidList more := by
  have hcount : (c ++ more).length / size = more.length / size + 1 := by
    simp only [List.length_append, hc, size]
    omega
  have hmod : (c ++ more).length % size = more.length % size := by
    simp only [List.length_append, hc, size]
    omega
  have hfirst : ((c ++ more).drop (size * 0)).take size = c := by simp [hc]
  have hnext : ∀ i, ((c ++ more).drop (size * (i + 1))).take size =
      (more.drop (size * i)).take size := by
    intro i
    rw [Nat.mul_succ, Nat.add_comm, ← List.drop_drop, List.drop_left' hc]
  unfold IsValidList
  rw [hmod, hcount, Nat.forall_lt_succ_left, hfirst]
  simp only [hnext]
  exact and_left_comm

/-- A valid list that is not empty starts with a valid action. -/
theorem IsValidList.head {bs : List UInt8} (h : IsValidList bs) (hne : bs ≠ []) :
    IsValidBytes (bs.take size) := by
  have hpos : 0 < bs.length / size := by
    have := List.length_pos_iff.2 hne
    have := h.1
    simp only [size] at *
    omega
  simpa using h.2 0 hpos

theorem not_isValidList_of_mod {bs : List UInt8} (h : bs.length % size ≠ 0) : ¬ IsValidList bs :=
  fun hv => h hv.1

/-- The action loop succeeds exactly on a valid list of actions. -/
theorem decodeAll_succeeds_iff (bs : List UInt8) :
    (∃ acts, decodeAll bs = .ok acts) ↔ IsValidList bs := by
  fun_induction decodeAll bs with
  | case1 => simp [isValidList_nil]
  | case2 | case3 | case4 =>
    simp only [reduceCtorEq, exists_false, false_iff]
    exact not_isValidList_of_mod (by simp [size])
  | case5 t0 t1 l0 l1 rest _ hcode =>
    simp only [reduceCtorEq, exists_false, false_iff]
    intro hv
    have hhead := (hv.head (List.cons_ne_nil _ _)).2.1
    simp [size] at hhead
    exact hcode hhead
  | case6 t0 t1 l0 l1 rest _ _ _ hlen =>
    simp only [reduceCtorEq, exists_false, false_iff]
    intro hv
    have hhead := (hv.head (List.cons_ne_nil _ _)).2.2.1
    simp [size, word16At, byteAt] at hhead
    exact hlen hhead
  | case7 t0 t1 l0 l1 _ _ hcode hlen p0 p1 m0 m1 more ih =>
    have hc : word16 t0 t1 = 0 := Decidable.not_not.1 hcode
    have hl : word16 l0 l1 = 8 := Decidable.not_not.1 hlen
    have hfirst : IsValidBytes [t0, t1, l0, l1, p0, p1, m0, m1] ↔
        PseudoPort.IsValidNumber (word16 p0 p1) := by
      simp [IsValidBytes, word16At, byteAt, hc, hl, size]
    have hsplit : t0 :: t1 :: l0 :: l1 :: p0 :: p1 :: m0 :: m1 :: more =
        [t0, t1, l0, l1, p0, p1, m0, m1] ++ more := rfl
    rw [hsplit, isValidList_append rfl, hfirst, ← PseudoPort.make_succeeds_iff _ (word16 m0 m1),
      ← ih]
    simp only [except_bind_succeeds_iff]
    constructor
    · rintro ⟨port, hport, tail, htail, -⟩
      exact ⟨⟨port, hport⟩, tail, htail⟩
    · rintro ⟨⟨port, hport⟩, tail, htail⟩
      exact ⟨port, hport, tail, htail, _, rfl⟩
  | case8 t0 t1 l0 l1 rest _ _ _ _ hshort =>
    simp only [reduceCtorEq, exists_false, false_iff]
    have hrest : rest.length < 4 := by
      rcases rest with _ | ⟨p0, _ | ⟨p1, _ | ⟨m0, _ | ⟨m1, more⟩⟩⟩⟩
      any_goals simp
      exact (hshort p0 p1 m0 m1 more rfl).elim
    exact not_isValidList_of_mod (by simp [size]; omega)

end Action

/-! ### Bodies -/

namespace ErrorMsg

/-- An error body: a type and a code, and any data after them. -/
def IsBody (b : List UInt8) : Prop :=
  4 ≤ b.length

instance : DecidablePred IsBody := fun _ => inferInstanceAs (Decidable (_ ≤ _))

theorem decode_succeeds_iff (b : List UInt8) : (∃ e, decode b = .ok e) ↔ IsBody b := by
  match b with
  | t0 :: t1 :: c0 :: c1 :: data => simp [decode, IsBody]
  | [] | [_] | [_, _] | [_, _, _] => simp [decode, IsBody]

end ErrorMsg

theorem PacketInReason.ofByte_succeeds_iff (r : UInt8) :
    (∃ x, PacketInReason.ofByte r = .ok x) ↔ r = 0 ∨ r = 1 := by
  unfold PacketInReason.ofByte
  by_cases h0 : r = 0 <;> by_cases h1 : r = 1 <;> simp [h0, h1]

namespace PacketIn

/-- A packet-in body: ten fixed bytes, the ninth of them a reason of 0 or 1, and the frame. -/
def IsBody (b : List UInt8) : Prop :=
  fixedSize ≤ b.length ∧ (byteAt b 8 = 0 ∨ byteAt b 8 = 1)

instance : DecidablePred IsBody := fun _ => inferInstanceAs (Decidable (_ ∧ _))

theorem decode_succeeds_iff (b : List UInt8) : (∃ p, decode b = .ok p) ↔ IsBody b := by
  match b with
  | b0 :: b1 :: b2 :: b3 :: t0 :: t1 :: p0 :: p1 :: r :: x :: frame =>
    simp only [decode, except_bind_succeeds_iff]
    simp [IsBody, fixedSize, byteAt, PacketInReason.ofByte_succeeds_iff]
  | [] | [_] | [_, _] | [_, _, _] | [_, _, _, _] | [_, _, _, _, _] | [_, _, _, _, _, _]
  | [_, _, _, _, _, _, _] | [_, _, _, _, _, _, _, _] | [_, _, _, _, _, _, _, _, _] =>
    simp [decode, IsBody, fixedSize]

end PacketIn

@[simp] theorem Payload.data_ofWire (bufferId : UInt32) (data : List UInt8) :
    (Payload.ofWire bufferId data).data = data := by
  unfold Payload.ofWire
  split <;> rfl

namespace PacketOut

/-- A packet-out body: eight fixed bytes, then as many bytes of valid actions as the action
length in bytes 6 and 7 announces, then the frame. -/
def IsBody (b : List UInt8) : Prop :=
  fixedSize ≤ b.length ∧ fixedSize + (word16At b 6).toNat ≤ b.length ∧
    Action.IsValidList ((b.drop fixedSize).take (word16At b 6).toNat)

instance : DecidablePred IsBody := fun _ => inferInstanceAs (Decidable (_ ∧ _ ∧ _))

theorem decode_succeeds_iff (b : List UInt8) : (∃ p, decode b = .ok p) ↔ IsBody b := by
  match b with
  | b0 :: b1 :: b2 :: b3 :: i0 :: i1 :: a0 :: a1 :: rest =>
    have hword : word16At (b0 :: b1 :: b2 :: b3 :: i0 :: i1 :: a0 :: a1 :: rest) 6 =
        word16 a0 a1 := rfl
    simp only [decode, IsBody, hword, fixedSize, List.length_cons, List.drop_succ_cons,
      List.drop_zero]
    by_cases hfit : rest.length < (word16 a0 a1).toNat
    · simp only [if_pos hfit, reduceCtorEq, exists_false, false_iff]
      omega
    · rw [if_neg hfit, except_bind_succeeds_iff]
      simp only [except_pure, Except.ok.injEq, exists_eq', and_true,
        Action.decodeAll_succeeds_iff]
      exact ⟨fun h => ⟨by omega, by omega, h⟩, fun h => h.2.2⟩
  | [] | [_] | [_, _] | [_, _, _] | [_, _, _, _] | [_, _, _, _, _] | [_, _, _, _, _, _]
  | [_, _, _, _, _, _, _] => simp [decode, IsBody, fixedSize]

/-- The frame of a packet-out is everything after its action bytes. -/
theorem data_of_decode {b : List UInt8} {p : PacketOut} (h : decode b = .ok p) :
    p.payload.data = b.drop (fixedSize + (word16At b 6).toNat) := by
  match b with
  | b0 :: b1 :: b2 :: b3 :: i0 :: i1 :: a0 :: a1 :: rest =>
    simp only [decode] at h
    split at h
    · cases h
    · obtain ⟨_, _, h⟩ := except_ok_of_bind h
      cases h
      show (Payload.ofWire _ _).data = _
      rw [Payload.data_ofWire, show fixedSize = 8 from rfl, ← List.drop_drop]
      rfl
  | [] | [_] | [_, _] | [_, _, _] | [_, _, _, _] | [_, _, _, _, _] | [_, _, _, _, _, _]
  | [_, _, _, _, _, _, _] => cases h

end PacketOut

namespace SwitchFeatures

/-- A features reply body: 24 fixed bytes, then whole 48-byte port descriptions. -/
def IsBody (b : List UInt8) : Prop :=
  fixedSize ≤ b.length ∧ (b.length - fixedSize) % PortDesc.size = 0

instance : DecidablePred IsBody := fun _ => inferInstanceAs (Decidable (_ ∧ _))

/-- `k` port descriptions are read from `48 k` bytes, the `i`-th from its own 48 bytes. -/
theorem portsDecoder_reads (k : Nat) {bs : List UInt8} (h : bs.length = PortDesc.size * k)
    (rest : List UInt8) :
    ∃ ps, (portsDecoder k).run (bs ++ rest) = .ok (ps, rest) ∧ ps.length = k ∧
      ∀ i (hi : i < ps.length),
        PortDesc.decode ((bs.drop (PortDesc.size * i)).take PortDesc.size) = .ok ps[i] := by
  induction k generalizing bs with
  | zero =>
    obtain rfl : bs = [] := List.length_eq_zero_iff.1 (by simpa using h)
    exact ⟨[], rfl, rfl, fun i hi => absurd hi (Nat.not_lt_zero i)⟩
  | succ k ih =>
    obtain ⟨p, hp⟩ : ∃ p, ∀ rest, PortDesc.decoder.run (bs.take PortDesc.size ++ rest) =
        .ok (p, rest) :=
      Decoder.Takes.run_append _ (by simp [h, Nat.mul_succ])
    obtain ⟨ps, hps, hcount, hget⟩ :=
      ih (show (bs.drop PortDesc.size).length = PortDesc.size * k by simp [h, Nat.mul_succ])
    have hfirst : PortDesc.decode (bs.take PortDesc.size) = .ok p := by
      have hlen : (bs.take PortDesc.size).length = PortDesc.size := by
        simp [h, Nat.mul_succ]
      rw [PortDesc.decode, if_neg (by omega), List.take_of_length_le (Nat.le_of_eq hlen),
        Decoder.decode, ← List.append_nil (bs.take PortDesc.size), hp]
      rfl
    refine ⟨p :: ps, ?_, by simp [hcount], fun i hi => ?_⟩
    · rw [← List.take_append_drop PortDesc.size bs, List.append_assoc, portsDecoder,
        Decoder.run_bind, hp]
      simp only [Decoder.run_bind, hps, Decoder.run_pure]
    · cases i with
      | zero => simpa using hfirst
      | succ i =>
        have hdrop : bs.drop (PortDesc.size * (i + 1)) =
            (bs.drop PortDesc.size).drop (PortDesc.size * i) := by
          rw [List.drop_drop, Nat.mul_succ, Nat.add_comm]
        rw [hdrop]
        exact hget i (by simpa using hi)

/-- A features body reads as a features reply with one port for each 48 bytes after the fixed
ones, the `i`-th read from its own 48 bytes. -/
theorem decode_of_isBody {b : List UInt8} (hb : IsBody b) :
    ∃ f, decode b = .ok f ∧ f.ports.length = (b.length - fixedSize) / PortDesc.size ∧
      ∀ i (hi : i < f.ports.length),
        PortDesc.decode ((b.drop (fixedSize + PortDesc.size * i)).take PortDesc.size) =
          .ok f.ports[i] := by
  obtain ⟨hlen, hmod⟩ := hb
  have hports : (b.drop fixedSize).length = PortDesc.size * ((b.length - fixedSize) / PortDesc.size) := by
    simp only [List.length_drop]
    exact (Nat.mul_div_cancel' (Nat.dvd_of_mod_eq_zero hmod)).symm
  obtain ⟨ps, hps, hcount, hget⟩ := portsDecoder_reads _ hports []
  rw [decode, if_neg (Nat.not_lt.2 hlen)]
  dsimp only
  rw [if_neg (by simpa using hmod)]
  generalize hr : Decoder.decode _ b = r
  simp only [fixedSize] at hlen hps hget hr
  obtain ⟨_, hr⟩ := Decoder.Takes.decode_bind Decoder.u64 (by omega) hr
  obtain ⟨_, hr⟩ := Decoder.Takes.decode_bind Decoder.u32 (by simp; omega) hr
  obtain ⟨_, hr⟩ := Decoder.Takes.decode_bind Decoder.byte (by simp; omega) hr
  obtain ⟨_, hr⟩ := Decoder.Takes.decode_bind (Decoder.skip 3) (by simp; omega) hr
  obtain ⟨_, hr⟩ := Decoder.Takes.decode_bind Decoder.u32 (by simp; omega) hr
  obtain ⟨_, hr⟩ := Decoder.Takes.decode_bind Decoder.u32 (by simp; omega) hr
  simp only [List.drop_drop, Nat.reduceAdd] at hr
  rw [← List.append_nil (b.drop 24), Decoder.decode, Decoder.run_bind, hps] at hr
  subst hr
  refine ⟨_, rfl, hcount, fun i hi => ?_⟩
  rw [← List.drop_drop]
  exact hget i hi

theorem decode_succeeds_iff (b : List UInt8) : (∃ f, decode b = .ok f) ↔ IsBody b := by
  refine ⟨fun ⟨f, hf⟩ => ?_, fun hb => (decode_of_isBody hb).elim fun f hf => ⟨f, hf.1⟩⟩
  unfold decode at hf
  split at hf
  · cases hf
  dsimp only at hf
  split at hf
  · cases hf
  rename_i hlen hmod
  exact ⟨Nat.le_of_not_lt hlen, by simpa using hmod⟩

end SwitchFeatures

theorem FlowModCommand.ofWire_succeeds_iff (n : UInt16) :
    (∃ c, FlowModCommand.ofWire n = .ok c) ↔ n ≤ 4 := by
  unfold FlowModCommand.ofWire
  have := n.toNat_lt
  split <;> simp_all [UInt16.le_iff_toNat_le] <;> omega

namespace FlowMod

/-- A flow-mod body: 64 fixed bytes whose command (bytes 48 and 49) is at most 4 and whose output
port (bytes 60 and 61) is a physical port, a reserved port or none, then valid actions to the
end. -/
def IsBody (b : List UInt8) : Prop :=
  fixedSize ≤ b.length ∧ word16At b 48 ≤ 4 ∧
    (word16At b 60 ≤ PseudoPort.maxPhysical ∨ 0xfff8 ≤ word16At b 60) ∧
    Action.IsValidList (b.drop fixedSize)

instance : DecidablePred IsBody := fun _ => inferInstanceAs (Decidable (_ ∧ _ ∧ _ ∧ _))

theorem decode_succeeds_iff (b : List UInt8) : (∃ f, decode b = .ok f) ↔ IsBody b := by
  unfold decode
  by_cases hshort : b.length < fixedSize
  · rw [if_pos hshort]
    simp only [reduceCtorEq, exists_false, false_iff, IsBody]
    omega
  rw [if_neg hshort]
  simp only [fixedSize] at hshort
  obtain ⟨m, hm⟩ : ∃ m, Match.decode (b.take Match.size) = .ok m := by
    obtain ⟨m, -, hm⟩ := Decoder.Takes.run_of_le Match.decoder
      (show Match.size ≤ b.length by simp [Match.size]; omega)
    refine ⟨m, ?_⟩
    rw [Match.decode, if_pos (by simp [Match.size]; omega), Decoder.decode, hm]
    rfl
  rw [hm, except_ok_bind]
  generalize hr : Decoder.decode _ ((b.take fixedSize).drop Match.size) = r
  simp only [fixedSize, Match.size] at hr
  obtain ⟨_, hr⟩ := Decoder.Takes.decode_bind Decoder.u64 (by simp; omega) hr
  have hr := Decoder.u16_decode_bind (by simp; omega) hr
  obtain ⟨_, hr⟩ := Decoder.Takes.decode_bind Decoder.u16 (by simp; omega) hr
  obtain ⟨_, hr⟩ := Decoder.Takes.decode_bind Decoder.u16 (by simp; omega) hr
  obtain ⟨_, hr⟩ := Decoder.Takes.decode_bind Decoder.u16 (by simp; omega) hr
  obtain ⟨_, hr⟩ := Decoder.Takes.decode_bind Decoder.u32 (by simp; omega) hr
  have hr := Decoder.u16_decode_bind (by simp; omega) hr
  obtain ⟨_, hr⟩ := Decoder.Takes.decode_bind Decoder.u16 (by simp; omega) hr
  subst hr
  have hcommand : word16At (((b.take 64).drop 40).drop 8) 0 = word16At b 48 := by
    rw [word16At_drop, word16At_drop, word16At_take (by decide)]
  have hport : word16At ((((((((b.take 64).drop 40).drop 8).drop 2).drop 2).drop 2).drop 2).drop 4)
      0 = word16At b 60 := by
    simp only [word16At_drop, word16At_take (show 8 + (2 + (2 + (2 + (2 + (4 + (40 + 0)))))) + 1 < 64 by decide)]
  simp only [except_ok_bind, Decoder.decode, Decoder.run_pure, except_map_ok, hcommand, hport,
    except_bind_succeeds_iff, except_pure, Except.ok.injEq, exists_eq', and_true,
    exists_and_right]
  rw [FlowModCommand.ofWire_succeeds_iff, PseudoPort.ofWire?_succeeds_iff,
    Action.decodeAll_succeeds_iff]
  exact ⟨fun h => ⟨by simp only [fixedSize]; omega, h⟩, fun h => h.2⟩

end FlowMod

/-! ### Messages -/

namespace Message

/-- The bodies the protocol allows under a header: a type byte of at most 21, and the grammar of
the type it names where that type has a body of its own; any body for the others. -/
def IsBody (h : Header) (b : List UInt8) : Prop :=
  h.typeCode.toNat ≤ 21 ∧
    (h.typeCode = MsgCode.error.toByte → ErrorMsg.IsBody b) ∧
    (h.typeCode = MsgCode.featuresReply.toByte → SwitchFeatures.IsBody b) ∧
    (h.typeCode = MsgCode.packetIn.toByte → PacketIn.IsBody b) ∧
    (h.typeCode = MsgCode.packetOut.toByte → PacketOut.IsBody b) ∧
    (h.typeCode = MsgCode.flowMod.toByte → FlowMod.IsBody b)

instance (h : Header) (b : List UInt8) : Decidable (IsBody h b) :=
  inferInstanceAs (Decidable (_ ∧ _ ∧ _ ∧ _ ∧ _ ∧ _))

theorem parse_succeeds_iff (h : Header) (b : List UInt8) :
    (∃ m, parse h b = .ok m) ↔ IsBody h b := by
  cases hc : MsgCode.ofByte? h.typeCode with
  | none =>
    have hbig : 21 < h.typeCode.toNat := by
      simp [MsgCode.ofByte?, MsgCode.all] at hc
      omega
    obtain ⟨r, hr⟩ := parse_unknownType b hbig
    simp only [hr, reduceCtorEq, exists_false, false_iff, IsBody]
    omega
  | some c =>
    have hcode : h.code = .ok c := by simp [Header.code, MsgCode.ofByte, hc]
    have htype : h.typeCode = c.toByte := (MsgCode.ofByte_eq_ok.1 hcode).symm
    rw [parse, hcode, except_ok_bind]
    cases c <;> simp [IsBody, htype, MsgCode.toByte, except_bind_succeeds_iff,
      ErrorMsg.decode_succeeds_iff, SwitchFeatures.decode_succeeds_iff,
      PacketIn.decode_succeeds_iff, PacketOut.decode_succeeds_iff, FlowMod.decode_succeeds_iff]

theorem decode_of_parse_featuresReply {h : Header} {b : List UInt8} {f : SwitchFeatures}
    (hparse : parse h b = .ok (.featuresReply f)) : SwitchFeatures.decode b = .ok f := by
  unfold parse at hparse
  obtain ⟨c, _, hparse⟩ := except_ok_of_bind hparse
  cases c with
  | featuresReply =>
    obtain ⟨_, hdecode, hparse⟩ := except_ok_of_bind hparse
    cases hparse
    exact hdecode
  | error | packetIn | packetOut | flowMod =>
    obtain ⟨_, _, hparse⟩ := except_ok_of_bind hparse
    cases hparse
  | _ => cases hparse

theorem decode_of_parse_packetOut {h : Header} {b : List UInt8} {p : PacketOut}
    (hparse : parse h b = .ok (.packetOut p)) : PacketOut.decode b = .ok p := by
  unfold parse at hparse
  obtain ⟨c, _, hparse⟩ := except_ok_of_bind hparse
  cases c with
  | packetOut =>
    obtain ⟨_, hdecode, hparse⟩ := except_ok_of_bind hparse
    cases hparse
    exact hdecode
  | error | featuresReply | packetIn | flowMod =>
    obtain ⟨_, _, hparse⟩ := except_ok_of_bind hparse
    cases hparse
  | _ => cases hparse

/-- Reading a body succeeds exactly on the wire grammar of its header's type (`IsBody`), and a
type byte above 21 is a protocol violation whatever the body. A features reply holds one port
for each 48 bytes after its 24 fixed ones, the `i`-th read from bytes `24 + 48 i` to `72 + 48 i`,
and a packet-out's frame is everything after the action bytes its length field announces. -/
theorem parse_succeeds_iff_isBody (h : Header) (b : List UInt8) :
    ((∃ m, parse h b = .ok m) ↔ IsBody h b) ∧
      (21 < h.typeCode.toNat → ∃ r, parse h b = .error (.protocolViolation r)) ∧
      (∀ f, parse h b = .ok (.featuresReply f) →
        f.ports.length = (b.length - SwitchFeatures.fixedSize) / PortDesc.size ∧
        ∀ i (hi : i < f.ports.length),
          PortDesc.decode ((b.drop (SwitchFeatures.fixedSize + PortDesc.size * i)).take
            PortDesc.size) = .ok f.ports[i]) ∧
      (∀ p, parse h b = .ok (.packetOut p) →
        p.payload.data = b.drop (PacketOut.fixedSize + (word16At b 6).toNat)) := by
  refine ⟨parse_succeeds_iff h b, parse_unknownType b, fun f hf => ?_, fun p hp =>
    PacketOut.data_of_decode (decode_of_parse_packetOut hp)⟩
  have hdecode := decode_of_parse_featuresReply hf
  obtain ⟨f', hf', hcount, hget⟩ :=
    SwitchFeatures.decode_of_isBody ((SwitchFeatures.decode_succeeds_iff b).1 ⟨f, hdecode⟩)
  obtain rfl : f = f' := Except.ok.inj (hdecode.symm.trans hf')
  exact ⟨hcount, hget⟩

/-- A packet-out with one output action to port 2 is in the grammar. -/
example : IsBody ⟨1, 13, 24, 0⟩ [0xff, 0xff, 0xff, 0xff, 0xff, 0xff, 0, 8,
    0, 0, 0, 8, 0, 2, 0, 0] := by
  decide

/-- An output action to port `0xff01`, between the physical and the reserved ports, is not. -/
example : ¬ IsBody ⟨1, 13, 24, 0⟩ [0xff, 0xff, 0xff, 0xff, 0xff, 0xff, 0, 8,
    0, 0, 0, 8, 0xff, 0x01, 0, 0] := by
  decide

end Message

end OpenFlow
