import OpenFlow.Proofs.Answer

/-!
# The layout of a packet-in's frame

`Flow.ofPacketIn` reads a frame as an ethernet header, an optional 802.1Q tag and a network
header. This module states that reading by the frame's bytes alone.

A frame is tagged when its ethernet type field holds 0x8100 (`Frame.Tagged`). Its network
header starts after 14 bytes, or after 18 when it is tagged (`Frame.networkOffset`), and the
ethernet type that counts is the word just before it (`Frame.innerType`). A frame is short when
it ends before a header it announces (`Frame.Short`). The flow of a frame that is not short and
whose type is known holds the frame's bytes (`Flow.Reads`): each of its fields is a slice of the
frame that lies inside it, so no read goes past the frame's end. `Flow.ofPacketIn_reads_frame`
says that reading a frame fails with a truncation, fails for its ethernet type, or gives that
flow, in exactly these three cases; `Flow.Reads.unique` that the description fixes the flow.

Inserting a tag into an untagged frame (`Frame.withTag`) moves the network header by four
bytes and changes nothing else that is read. Both frames then give the same outcome, and on
success the same flow but for the tag and the offset (`Flow.ofPacketIn_withTag`).
-/

namespace OpenFlow

/-! ### Bytes inside the frame -/

section Slices

variable {frame : List UInt8} {i j : Nat}

/-- `n` bytes from offset `i`, inside the frame, are the bytes at `i`, `i + 1`, and so on. -/
theorem extract_eq_map_range (n : Nat) (h : i + n ≤ frame.length) :
    frame.extract i (i + n) = (List.range n).map fun k => byteAt frame (i + k) := by
  apply List.ext_getElem
  · simp only [List.extract_eq_take_drop, List.length_take, List.length_drop, List.length_map,
      List.length_range]
    omega
  · intro k _ hk
    simp only [List.length_map, List.length_range] at hk
    simp only [List.extract_eq_take_drop, List.getElem_take, List.getElem_drop, List.getElem_map,
      List.getElem_range, byteAt, List.getD_eq_getElem?_getD]
    rw [List.getElem?_eq_getElem (by omega), Option.getD_some]

theorem extract_drop (l a b : Nat) : (frame.drop l).extract a b = frame.extract (l + a) (l + b) := by
  simp only [List.extract_eq_take_drop, List.drop_drop]
  congr 1
  omega

theorem getElem?_eq_byteAt (h : i < frame.length) : frame[i]? = some (byteAt frame i) := by
  simp only [byteAt, List.getD_eq_getElem?_getD, List.getElem?_eq_getElem h, Option.getD_some]

theorem be16_word16At (hj : j = i + 2) (h : j ≤ frame.length) :
    be16 (word16At frame i) = frame.extract i j := by
  subst hj
  rw [extract_eq_map_range 2 h]
  simp [List.range_succ, word16At, be16_word16]

theorem be32_word32At (hj : j = i + 4) (h : j ≤ frame.length) :
    be32 (word32At frame i) = frame.extract i j := by
  subst hj
  rw [extract_eq_map_range 4 h]
  simp [List.range_succ, word32At, be32_word32]

theorem toList_macAt (hj : j = i + 6) (h : j ≤ frame.length) :
    (macAt frame i).toList = frame.extract i j := by
  subst hj
  rw [extract_eq_map_range 6 h]
  simp [List.range_succ, macAt, MacAddr.toList]

end Slices

/-! ### Words told apart by their bytes -/

theorem be16_inj {a b : UInt16} (h : be16 a = be16 b) : a = b := by
  simp only [be16, List.cons.injEq, and_true] at h
  rw [← word16_bytes a, ← word16_bytes b, h.1, h.2]

theorem be32_inj {a b : UInt32} (h : be32 a = be32 b) : a = b := by
  simp only [be32, List.cons.injEq, and_true] at h
  rw [← word32_bytes a, ← word32_bytes b, h.1, h.2.1, h.2.2.1, h.2.2.2]

theorem MacAddr.toList_inj {a b : MacAddr} (h : a.toList = b.toList) : a = b := by
  obtain ⟨a0, a1, a2, a3, a4, a5⟩ := a
  obtain ⟨b0, b1, b2, b3, b4, b5⟩ := b
  simp only [toList, List.cons.injEq, and_true] at h
  obtain ⟨rfl, rfl, rfl, rfl, rfl, rfl⟩ := h
  rfl

theorem word16At_eq_iff {frame : List UInt8} {i j : Nat} (hj : j = i + 2) (h : j ≤ frame.length)
    (w : UInt16) : word16At frame i = w ↔ frame.extract i j = be16 w := by
  rw [← be16_word16At hj h]
  exact ⟨fun hw => hw ▸ rfl, be16_inj⟩

theorem EtherType.toWire_ofWire (t : UInt16) : (EtherType.ofWire t).toWire = t := by
  unfold EtherType.ofWire
  repeat' split
  all_goals simp_all [EtherType.toWire]

theorem EtherType.ofWire_eq_vlan_iff (t : UInt16) : EtherType.ofWire t = .vlan ↔ t = 0x8100 := by
  constructor
  · intro h
    rw [← EtherType.toWire_ofWire t, h]
    rfl
  · rintro rfl
    rfl

theorem need_eq_ok {what : String} {frame : List UInt8} {len : Nat} (h : len ≤ frame.length) :
    need what frame len = .ok () := by
  rw [need, if_neg (Nat.not_lt.mpr h)]

theorem need_eq_error {what : String} {frame : List UInt8} {len : Nat} (h : frame.length < len) :
    need what frame len = .error (.truncated what len frame.length) := by
  rw [need, if_pos h]

/-! ### The frame's layout -/

namespace Frame

/-- The frame carries an 802.1Q tag: its ethernet type field, bytes 12 and 13, holds 0x8100. -/
def Tagged (frame : List UInt8) : Prop :=
  frame.extract 12 14 = be16 0x8100

instance : DecidablePred Tagged := fun _ => inferInstanceAs (Decidable (_ = _))

/-- Where the network header starts: behind the 14 bytes of the ethernet header, and the four
of a tag. -/
def networkOffset (frame : List UInt8) : Nat :=
  if Tagged frame then 18 else 14

/-- The ethernet type that names the network header: the word just before it. -/
def innerType (frame : List UInt8) : UInt16 :=
  word16At frame (networkOffset frame - 2)

/-- The ethernet types whose frames are read: IPv4, ARP, IPv6, RARP and 0x002c. -/
def KnownType (t : UInt16) : Prop :=
  t ∈ [0x0800, 0x0806, 0x86dd, 0x8035, 0x002c]

instance : DecidablePred KnownType := fun _ => inferInstanceAs (Decidable (_ ∈ _))

/-- The frame ends before a header it announces: the ethernet header, a tag, or the ARP payload
or IPv4 header its ethernet type names. -/
def Short (frame : List UInt8) : Prop :=
  frame.length < 14 ∨ (Tagged frame ∧ frame.length < 18) ∨
    (innerType frame = 0x0806 ∧ frame.length < networkOffset frame + 28) ∨
    (innerType frame = 0x0800 ∧ frame.length < networkOffset frame + 20)

instance : DecidablePred Short := fun _ => inferInstanceAs (Decidable (_ ∨ _))

/-- The frame from its network header on. -/
def network (frame : List UInt8) : List UInt8 :=
  frame.drop (networkOffset frame)

variable {frame : List UInt8}

theorem networkOffset_of_tagged (h : Tagged frame) : networkOffset frame = 18 := if_pos h

theorem networkOffset_of_untagged (h : ¬ Tagged frame) : networkOffset frame = 14 := if_neg h

theorem tagged_iff (h : 14 ≤ frame.length) :
    Tagged frame ↔ EtherType.ofWire (word16At frame 12) = .vlan := by
  rw [EtherType.ofWire_eq_vlan_iff, word16At_eq_iff rfl h]
  rfl

/-- A frame that is not short holds its ethernet header and any tag it announces. -/
theorem linkReady (h : ¬ Short frame) : 14 ≤ frame.length ∧ (Tagged frame → 18 ≤ frame.length) := by
  simp only [Short, not_or, not_and, Nat.not_lt] at h
  exact ⟨h.1, h.2.1⟩

theorem networkOffset_le (h : ¬ Short frame) : networkOffset frame ≤ frame.length := by
  unfold networkOffset
  split
  · exact (linkReady h).2 ‹_›
  · exact (linkReady h).1

theorem be16_innerType (h : networkOffset frame ≤ frame.length) :
    be16 (innerType frame) = frame.extract (networkOffset frame - 2) (networkOffset frame) := by
  have h14 : 14 ≤ networkOffset frame := by unfold networkOffset; split <;> omega
  exact be16_word16At (by omega) h

end Frame

/-! ### What a flow holds of a frame -/

/-- What a flow holds of its frame's network and transport headers. -/
@[ext] structure NetFields where
  tos : UInt8
  proto : UInt8
  src : UInt32
  dst : UInt32
  tpSrc : UInt16
  tpDst : UInt16
  sha : MacAddr
  tha : MacAddr
  wildcards : Wildcards
deriving DecidableEq

/-- Nothing read from a network header: the fields of an empty flow. -/
def NetFields.none : NetFields :=
  ⟨0, 0, 0, 0, 0, 0, MacAddr.zero, MacAddr.zero, Wildcards.none⟩

/-- Where the transport header starts in the bytes from an IPv4 header on: 24 when the header
length, the low half of its first byte, is above five words, and 20 otherwise. -/
def transportOffset (net : List UInt8) : Nat :=
  if net.headD 0 &&& 0x0f > 5 then 24 else 20

/-- The fields of an IPv4 header at the front of `net`, and the transport ports behind it when
`net` holds them; a flow without the ports ignores them. -/
structure Ipv4Fields (net : List UInt8) (n : NetFields) : Prop where
  tos : net[1]?.map (fun b : UInt8 => b >>> 2) = some n.tos
  proto : net[9]? = some n.proto
  src : be32 n.src = net.extract 12 16
  dst : be32 n.dst = net.extract 16 20
  ports : if transportOffset net + 4 ≤ net.length then
      be16 n.tpSrc = net.extract (transportOffset net) (transportOffset net + 2) ∧
        be16 n.tpDst = net.extract (transportOffset net + 2) (transportOffset net + 4) ∧
        n.wildcards = ⟨Wildcards.dlVlan ||| Wildcards.dlVlanPcp⟩
    else
      n.tpSrc = 0 ∧ n.tpDst = 0 ∧
        n.wildcards = ⟨Wildcards.dlVlan ||| Wildcards.dlVlanPcp ||| Wildcards.tpSrc |||
          Wildcards.tpDst⟩
  noArp : n.sha = MacAddr.zero ∧ n.tha = MacAddr.zero

/-- An ARP payload for IPv4 over ethernet: hardware type 1, protocol type 0x0800, address
lengths 6 and 4, and an opcode below 256. -/
def EthIpv4Arp (net : List UInt8) : Prop :=
  net.extract 0 2 = be16 1 ∧ net.extract 2 4 = be16 0x0800 ∧ net.extract 4 6 = [6, 4] ∧
    net[6]? = some 0

instance : DecidablePred EthIpv4Arp := fun _ => inferInstanceAs (Decidable (_ ∧ _))

/-- The fields of an ARP payload for IPv4 over ethernet at the front of `net`: the opcode as
the protocol, the two hardware and the two protocol addresses. -/
structure ArpFields (net : List UInt8) (n : NetFields) : Prop where
  opcode : net[7]? = some n.proto
  sha : n.sha.toList = net.extract 8 14
  src : be32 n.src = net.extract 14 18
  tha : n.tha.toList = net.extract 18 24
  dst : be32 n.dst = net.extract 24 28
  rest : n.tos = 0 ∧ n.tpSrc = 0 ∧ n.tpDst = 0 ∧
    n.wildcards = ⟨Wildcards.tpSrc ||| Wildcards.tpDst ||| Wildcards.dlVlan ||| Wildcards.dlVlanPcp⟩

/-- What a flow holds of the network header `net` of a frame of ethernet type `t`: the fields of
an IPv4 header, those of an ARP payload for IPv4 over ethernet, and nothing for the rest. -/
def NetworkFields (t : UInt16) (net : List UInt8) (n : NetFields) : Prop :=
  if t = 0x0800 then Ipv4Fields net n
  else if t = 0x0806 ∧ EthIpv4Arp net then ArpFields net n
  else n = NetFields.none

namespace Flow

/-- What the flow holds of its frame's network and transport headers. -/
def net (f : Flow) : NetFields :=
  ⟨f.nwTos, f.nwProto, f.nwSrc, f.nwDst, f.tpSrc, f.tpDst, f.arpSha, f.arpTha, f.wildcards⟩

/-- The flow with other network and transport fields. -/
def withNet (f : Flow) (n : NetFields) : Flow :=
  { f with nwTos := n.tos, nwProto := n.proto, nwSrc := n.src, nwDst := n.dst, tpSrc := n.tpSrc,
           tpDst := n.tpDst, arpSha := n.sha, arpTha := n.tha, wildcards := n.wildcards }

/-- What the flow of a packet-in holds of the packet-in and of the frame in front of its network
header: the packet-in's buffer, length, port and reason, the two addresses, the tag's fields
when the frame has one, the ethernet type that names the network header, and where that
header starts. -/
structure ReadsLink (xid : UInt32) (pi : PacketIn) (f : Flow) : Prop where
  origin : f.xid = xid ∧ f.origin = (pi.payload.bufferId, pi.totalLen, pi.port, pi.reason)
  dlDst : f.dlDst.toList = pi.payload.data.extract 0 6
  dlSrc : f.dlSrc.toList = pi.payload.data.extract 6 12
  vlan : if Frame.Tagged pi.payload.data then
      ∃ tci, be16 tci = pi.payload.data.extract 14 16 ∧
        f.vlan = some ⟨tci &&& 0x0fff, (tci >>> 13).toUInt8⟩
    else f.vlan = none
  ethType : be16 f.ethType = pi.payload.data.extract (Frame.networkOffset pi.payload.data - 2)
    (Frame.networkOffset pi.payload.data)
  l3Offset : f.l3Offset = Frame.networkOffset pi.payload.data

/-- What the flow of a packet-in holds: what it reads in front of the network header, and the
fields of the network header that the frame's ethernet type names. -/
structure Reads (xid : UInt32) (pi : PacketIn) (f : Flow) : Prop extends ReadsLink xid pi f where
  network : NetworkFields (Frame.innerType pi.payload.data) (Frame.network pi.payload.data) f.net

/-! ### The description fixes the flow -/

theorem ext_of_net {f g : Flow} (hxid : f.xid = g.xid) (horigin : f.origin = g.origin)
    (hdst : f.dlDst = g.dlDst) (hsrc : f.dlSrc = g.dlSrc) (hvlan : f.vlan = g.vlan)
    (htype : f.ethType = g.ethType) (hl3 : f.l3Offset = g.l3Offset) (hnet : f.net = g.net) :
    f = g := by
  cases f
  cases g
  simp only [origin, net, Prod.mk.injEq, NetFields.mk.injEq] at *
  simp_all

theorem ReadsLink.eq_of_net_eq {xid : UInt32} {pi : PacketIn} {f g : Flow}
    (hf : ReadsLink xid pi f) (hg : ReadsLink xid pi g) (hnet : f.net = g.net) : f = g := by
  have hvlan : f.vlan = g.vlan := by
    have hfv := hf.vlan
    have hgv := hg.vlan
    split at hfv
    · rw [if_pos ‹_›] at hgv
      obtain ⟨t, ht, hft⟩ := hfv
      obtain ⟨t', ht', hgt⟩ := hgv
      rw [hft, hgt, be16_inj (ht.trans ht'.symm)]
    · rw [if_neg ‹_›] at hgv
      rw [hfv, hgv]
  exact ext_of_net (hf.origin.1.trans hg.origin.1.symm) (hf.origin.2.trans hg.origin.2.symm)
    (MacAddr.toList_inj (hf.dlDst.trans hg.dlDst.symm))
    (MacAddr.toList_inj (hf.dlSrc.trans hg.dlSrc.symm)) hvlan
    (be16_inj (hf.ethType.trans hg.ethType.symm)) (hf.l3Offset.trans hg.l3Offset.symm) hnet

end Flow

theorem Ipv4Fields.unique {net : List UInt8} {n m : NetFields} (hn : Ipv4Fields net n)
    (hm : Ipv4Fields net m) : n = m := by
  have hports : n.tpSrc = m.tpSrc ∧ n.tpDst = m.tpDst ∧ n.wildcards = m.wildcards := by
    have hnp := hn.ports
    have hmp := hm.ports
    split at hnp
    · rw [if_pos ‹_›] at hmp
      exact ⟨be16_inj (hnp.1.trans hmp.1.symm), be16_inj (hnp.2.1.trans hmp.2.1.symm),
        hnp.2.2.trans hmp.2.2.symm⟩
    · rw [if_neg ‹_›] at hmp
      exact ⟨hnp.1.trans hmp.1.symm, hnp.2.1.trans hmp.2.1.symm, hnp.2.2.trans hmp.2.2.symm⟩
  exact NetFields.ext (Option.some.inj (hn.tos.symm.trans hm.tos))
    (Option.some.inj (hn.proto.symm.trans hm.proto)) (be32_inj (hn.src.trans hm.src.symm))
    (be32_inj (hn.dst.trans hm.dst.symm)) hports.1 hports.2.1
    (hn.noArp.1.trans hm.noArp.1.symm) (hn.noArp.2.trans hm.noArp.2.symm) hports.2.2

theorem ArpFields.unique {net : List UInt8} {n m : NetFields} (hn : ArpFields net n)
    (hm : ArpFields net m) : n = m :=
  NetFields.ext (hn.rest.1.trans hm.rest.1.symm) (Option.some.inj (hn.opcode.symm.trans hm.opcode))
    (be32_inj (hn.src.trans hm.src.symm)) (be32_inj (hn.dst.trans hm.dst.symm))
    (hn.rest.2.1.trans hm.rest.2.1.symm) (hn.rest.2.2.1.trans hm.rest.2.2.1.symm)
    (MacAddr.toList_inj (hn.sha.trans hm.sha.symm)) (MacAddr.toList_inj (hn.tha.trans hm.tha.symm))
    (hn.rest.2.2.2.trans hm.rest.2.2.2.symm)

theorem NetworkFields.unique {t : UInt16} {net : List UInt8} {n m : NetFields}
    (hn : NetworkFields t net n) (hm : NetworkFields t net m) : n = m := by
  unfold NetworkFields at hn hm
  split at hn
  · rw [if_pos ‹_›] at hm
    exact hn.unique hm
  · rw [if_neg ‹_›] at hm
    split at hn
    · rw [if_pos ‹_›] at hm
      exact hn.unique hm
    · rw [if_neg ‹_›] at hm
      rw [hn, hm]

/-! ### Reading the ethernet header and the tag -/

namespace Flow

/-- The flow of a packet-in with what it holds of the packet-in and of the frame in front of
the network header, and nothing of the network header. -/
def linkFlow (xid : UInt32) (pi : PacketIn) : Flow :=
  { empty xid with
    bufferId := pi.payload.bufferId, totalLen := pi.totalLen, inPort := pi.port,
    reason := pi.reason, dlDst := macAt pi.payload.data 0, dlSrc := macAt pi.payload.data 6,
    ethType := Frame.innerType pi.payload.data,
    vlan := if Frame.Tagged pi.payload.data then
        some ⟨word16At pi.payload.data 14 &&& 0x0fff, (word16At pi.payload.data 14 >>> 13).toUInt8⟩
      else none,
    l3Offset := Frame.networkOffset pi.payload.data }

/-- Reading a frame behind its ethernet header and tag: an ARP payload or an IPv4 header by the
flow's ethernet type, nothing for the other known types, and a refusal of the rest. -/
def readNetwork (f : Flow) (frame : List UInt8) : Except WireError Flow :=
  match f.etherType with
  | .arp => f.withArp frame
  | .ip => f.withIpv4 frame
  | .ipv6 | .rarp | .unspecified => pure f
  | .vlan | .other _ => throw (.unknownEtherType f.ethType)

variable {xid : UInt32} {pi : PacketIn}

theorem ofPacketIn_of_short_ethernet (h : pi.payload.data.length < 14) :
    ofPacketIn xid pi = .error (.truncated "ethernet header" 14 pi.payload.data.length) := by
  unfold ofPacketIn ethHeaderLength
  dsimp only
  rw [need_eq_error h]
  rfl

theorem ofPacketIn_of_short_tag (h14 : 14 ≤ pi.payload.data.length)
    (ht : Frame.Tagged pi.payload.data) (h : pi.payload.data.length < 18) :
    ofPacketIn xid pi = .error (.truncated "vlan tag" 18 pi.payload.data.length) := by
  unfold ofPacketIn ethHeaderLength vlanTagLength
  dsimp only
  rw [need_eq_ok h14, except_ok_bind, if_pos ((Frame.tagged_iff h14).mp ht), need_eq_error h]
  rfl

/-- Once the frame holds its ethernet header and any tag, what is left is the network step on
the flow read so far. -/
theorem ofPacketIn_eq_readNetwork (h14 : 14 ≤ pi.payload.data.length)
    (h18 : Frame.Tagged pi.payload.data → 18 ≤ pi.payload.data.length) :
    ofPacketIn xid pi = (linkFlow xid pi).readNetwork pi.payload.data := by
  unfold ofPacketIn ethHeaderLength vlanTagLength
  dsimp only
  rw [need_eq_ok h14, except_ok_bind]
  by_cases ht : Frame.Tagged pi.payload.data
  · rw [if_pos ((Frame.tagged_iff h14).mp ht), need_eq_ok (h18 ht)]
    simp only [linkFlow, Frame.innerType, Frame.networkOffset, if_pos ht]
    rfl
  · rw [if_neg (mt (Frame.tagged_iff h14).mpr ht)]
    simp only [linkFlow, Frame.innerType, Frame.networkOffset, if_neg ht]
    rfl

theorem readsLink_linkFlow (h : Frame.networkOffset pi.payload.data ≤ pi.payload.data.length) :
    ReadsLink xid pi (linkFlow xid pi) := by
  have h14 : 14 ≤ Frame.networkOffset pi.payload.data := by
    unfold Frame.networkOffset
    split <;> omega
  refine ⟨⟨rfl, rfl⟩, toList_macAt rfl (by omega), toList_macAt rfl (by omega), ?_,
    Frame.be16_innerType h, rfl⟩
  by_cases ht : Frame.Tagged pi.payload.data
  · rw [if_pos ht]
    have h18 : 16 ≤ pi.payload.data.length := by
      rw [Frame.networkOffset_of_tagged ht] at h
      omega
    exact ⟨_, be16_word16At rfl h18, by simp only [linkFlow, if_pos ht]⟩
  · rw [if_neg ht]
    simp only [linkFlow, if_neg ht]

theorem ReadsLink.withNet {f : Flow} (h : ReadsLink xid pi f) (n : NetFields) :
    ReadsLink xid pi (f.withNet n) :=
  ⟨h.origin, h.dlDst, h.dlSrc, h.vlan, h.ethType, h.l3Offset⟩

@[simp] theorem net_withNet (f : Flow) (n : NetFields) : (f.withNet n).net = n := rfl

@[simp] theorem net_linkFlow : (linkFlow xid pi).net = NetFields.none := rfl

end Flow

/-! ### Reading the network header -/

theorem word16_toUInt8 (a b : UInt8) : (word16 a b).toUInt8 = b := by
  apply UInt8.toNat_inj.mp
  have := b.toNat_lt
  rw [UInt16.toNat_toUInt8, word16_toNat]
  omega

/-- A word fits a byte exactly when its high byte is zero. -/
theorem word16_le_iff (a b : UInt8) : word16 a b ≤ 0xff ↔ a = 0 := by
  rw [UInt16.le_iff_toNat_le, word16_toNat, ← UInt8.toNat_inj]
  have := b.toNat_lt
  simp only [UInt16.reduceToNat, UInt8.reduceToNat]
  omega

theorem headD_eq_byteAt (bs : List UInt8) : bs.headD 0 = byteAt bs 0 := by
  cases bs <;> rfl

theorem transportOffset_drop (frame : List UInt8) (l : Nat) :
    transportOffset (frame.drop l) = if byteAt frame l &&& 0x0f > 5 then 24 else 20 := by
  rw [transportOffset, headD_eq_byteAt, byteAt_drop, Nat.add_zero]

/-- The test by which an ARP payload is read, as the frame's bytes. -/
theorem ethIpv4Arp_drop_iff {frame : List UInt8} {l : Nat} (h : l + 28 ≤ frame.length) :
    EthIpv4Arp (frame.drop l) ↔
      (((word16At frame l = 1 ∧ word16At frame (l + 2) = EtherType.ip.toWire) ∧
        byteAt frame (l + 4) = 6) ∧ byteAt frame (l + 5) = 4) ∧ ¬ word16At frame (l + 6) > 0xff := by
  have hhw : frame.extract l (l + 2) = be16 1 ↔ word16At frame l = 1 :=
    (word16At_eq_iff rfl (by omega) 1).symm
  have hproto : frame.extract (l + 2) (l + 4) = be16 0x0800 ↔
      word16At frame (l + 2) = EtherType.ip.toWire :=
    (word16At_eq_iff (by omega) (by omega) _).symm
  have hlens : frame.extract (l + 4) (l + 6) = [6, 4] ↔
      byteAt frame (l + 4) = 6 ∧ byteAt frame (l + 5) = 4 := by
    rw [extract_eq_map_range 2 (by omega)]
    simp [List.range_succ]
  have hop : frame[l + 6]? = some 0 ↔ ¬ word16At frame (l + 6) > 0xff := by
    rw [getElem?_eq_byteAt (by omega), Option.some.injEq, word16At, UInt16.not_lt, word16_le_iff]
  simp only [EthIpv4Arp, extract_drop, List.getElem?_drop, Nat.add_zero, hhw, hproto, hlens, hop,
    and_assoc]

namespace Flow

variable {frame : List UInt8}

theorem readNetwork_of_arp (f : Flow) (h : f.ethType = 0x0806) : f.readNetwork frame = f.withArp frame := by
  rw [readNetwork, etherType, h]
  rfl

theorem readNetwork_of_ip (f : Flow) (h : f.ethType = 0x0800) : f.readNetwork frame = f.withIpv4 frame := by
  rw [readNetwork, etherType, h]
  rfl

/-- IPv6, RARP and 0x002c frames are read no further than their ethernet header. -/
theorem readNetwork_of_passive (f : Flow) (h : f.ethType = 0x86dd ∨ f.ethType = 0x8035 ∨ f.ethType = 0x002c) :
    f.readNetwork frame = .ok f := by
  rcases h with h | h | h <;> (rw [readNetwork, etherType, h]; rfl)

theorem readNetwork_of_unknown (f : Flow) (h : ¬ Frame.KnownType f.ethType) :
    f.readNetwork frame = .error (.unknownEtherType f.ethType) := by
  have hw := EtherType.toWire_ofWire f.ethType
  unfold readNetwork etherType
  rcases hE : EtherType.ofWire f.ethType with _ | _ | _ | _ | _ | _ | v
  case vlan => rfl
  case other => rfl
  all_goals
    rw [hE] at hw
    exact absurd (hw ▸ by decide) h

theorem withArp_of_short (f : Flow) (h : frame.length < f.l3Offset + 28) :
    f.withArp frame = .error (.truncated "arp payload" (f.l3Offset + 28) frame.length) := by
  unfold withArp arpPayloadLength
  dsimp only
  rw [need_eq_error h]
  rfl

theorem withIpv4_of_short (f : Flow) (h : frame.length < f.l3Offset + 20) :
    f.withIpv4 frame = .error (.truncated "ipv4 header" (f.l3Offset + 20) frame.length) := by
  unfold withIpv4 ipv4MinHeaderLength
  dsimp only
  rw [need_eq_error h]
  rfl

/-- Reading an ARP payload changes only the network fields. On a flow that had none, they are
the payload's when it is one for IPv4 over ethernet, and still none otherwise. -/
theorem withArp_of_le (f : Flow) (h : f.l3Offset + 28 ≤ frame.length) :
    ∃ g, f.withArp frame = .ok g ∧ g = f.withNet g.net ∧
      (f.net = NetFields.none → NetworkFields 0x0806 (frame.drop f.l3Offset) g.net) := by
  unfold withArp arpPayloadLength
  dsimp only
  rw [need_eq_ok h, except_ok_bind]
  split
  case isTrue htest =>
    have hno : ¬ EthIpv4Arp (frame.drop f.l3Offset) := fun ha => by
      obtain ⟨⟨⟨⟨hhw, hproto⟩, hhlen⟩, hplen⟩, hop⟩ := (ethIpv4Arp_drop_iff h).mp ha
      simp only [Bool.or_eq_true, decide_eq_true_eq, hhw, hproto, hhlen, hplen, ne_eq,
        not_true_eq_false, or_false, false_or] at htest
      exact hop htest
    refine ⟨f, rfl, rfl, fun hf => ?_⟩
    rw [NetworkFields, if_neg (by decide), if_neg fun h => hno h.2]
    exact hf
  case isFalse htest =>
    simp only [Bool.or_eq_true, decide_eq_true_eq, not_or, Decidable.not_not] at htest
    have ha := (ethIpv4Arp_drop_iff h).mpr htest
    refine ⟨_, rfl, rfl, fun hf => ?_⟩
    simp only [net, NetFields.none, NetFields.mk.injEq] at hf
    rw [NetworkFields, if_neg (by decide), if_pos ⟨rfl, ha⟩]
    refine ⟨?_, ?_, ?_, ?_, ?_, ⟨hf.1, hf.2.2.2.2.1, hf.2.2.2.2.2.1, rfl⟩⟩
    · rw [List.getElem?_drop, getElem?_eq_byteAt (by omega), word16At, word16_toUInt8]
      rfl
    · exact (toList_macAt (by omega) (by omega)).trans (extract_drop _ _ _).symm
    · exact (be32_word32At (by omega) (by omega)).trans (extract_drop _ _ _).symm
    · exact (toList_macAt (by omega) (by omega)).trans (extract_drop _ _ _).symm
    · exact (be32_word32At (by omega) (by omega)).trans (extract_drop _ _ _).symm

/-- Reading an IPv4 header changes only the network fields, and on a flow that had none they
are the header's and the transport ports behind it. -/
theorem withIpv4_of_le (f : Flow) (h : f.l3Offset + 20 ≤ frame.length) :
    ∃ g, f.withIpv4 frame = .ok g ∧ g = f.withNet g.net ∧
      (f.net = NetFields.none → Ipv4Fields (frame.drop f.l3Offset) g.net) := by
  unfold withIpv4 ipv4MinHeaderLength
  dsimp only
  rw [need_eq_ok h, except_ok_bind, ← transportOffset_drop]
  have hlen : (frame.drop f.l3Offset).length = frame.length - f.l3Offset := List.length_drop
  have hfields : ∀ n : NetFields, n.tos = byteAt frame (f.l3Offset + 1) >>> 2 →
      n.proto = byteAt frame (f.l3Offset + 9) → n.src = word32At frame (f.l3Offset + 12) →
      n.dst = word32At frame (f.l3Offset + 16) → n.sha = MacAddr.zero → n.tha = MacAddr.zero →
      (if transportOffset (frame.drop f.l3Offset) + 4 ≤ (frame.drop f.l3Offset).length then
          be16 n.tpSrc = (frame.drop f.l3Offset).extract (transportOffset (frame.drop f.l3Offset))
              (transportOffset (frame.drop f.l3Offset) + 2) ∧
            be16 n.tpDst = (frame.drop f.l3Offset).extract
              (transportOffset (frame.drop f.l3Offset) + 2)
              (transportOffset (frame.drop f.l3Offset) + 4) ∧
            n.wildcards = ⟨Wildcards.dlVlan ||| Wildcards.dlVlanPcp⟩
        else
          n.tpSrc = 0 ∧ n.tpDst = 0 ∧
            n.wildcards = ⟨Wildcards.dlVlan ||| Wildcards.dlVlanPcp ||| Wildcards.tpSrc |||
              Wildcards.tpDst⟩) →
      Ipv4Fields (frame.drop f.l3Offset) n := by
    intro n htos hproto hsrc hdst hsha htha hports
    refine ⟨?_, ?_, ?_, ?_, hports, hsha, htha⟩
    · rw [List.getElem?_drop, getElem?_eq_byteAt (by omega), htos]
      rfl
    · rw [List.getElem?_drop, getElem?_eq_byteAt (by omega), hproto]
    · rw [hsrc, extract_drop]
      exact be32_word32At (by omega) (by omega)
    · rw [hdst, extract_drop]
      exact be32_word32At (by omega) (by omega)
  split
  case isTrue hport =>
    refine ⟨_, rfl, rfl, fun hf => ?_⟩
    simp only [net, NetFields.none, NetFields.mk.injEq] at hf
    refine hfields _ rfl rfl rfl rfl hf.2.2.2.2.2.2.1 hf.2.2.2.2.2.2.2.1 ?_
    rw [if_pos (by omega), extract_drop, extract_drop]
    exact ⟨be16_word16At (by omega) (by omega), be16_word16At (by omega) (by omega), rfl⟩
  case isFalse hport =>
    refine ⟨_, rfl, rfl, fun hf => ?_⟩
    simp only [net, NetFields.none, NetFields.mk.injEq] at hf
    refine hfields _ rfl rfl rfl rfl hf.2.2.2.2.2.2.1 hf.2.2.2.2.2.2.2.1 ?_
    rw [if_neg (by omega)]
    exact ⟨hf.2.2.2.2.1, hf.2.2.2.2.2.1, by simp only [net, Wildcards.insert]; decide⟩

end Flow

/-- The description of a packet-in's flow leaves no field open. -/
theorem Flow.Reads.unique {xid : UInt32} {pi : PacketIn} {f g : Flow} (hf : Reads xid pi f)
    (hg : Reads xid pi g) : f = g :=
  hf.eq_of_net_eq hg.toReadsLink (hf.network.unique hg.network)

/-! ### The three outcomes -/

namespace Flow

variable (xid : UInt32) {pi : PacketIn}

/-- A short frame is cut short: reading it fails with a truncation. -/
theorem ofPacketIn_of_short (h : Frame.Short pi.payload.data) :
    ∃ e, ofPacketIn xid pi = .error e ∧ e.IsTruncation := by
  by_cases h14 : pi.payload.data.length < 14
  · exact ⟨_, ofPacketIn_of_short_ethernet h14, _, _, _, rfl⟩
  by_cases htag : Frame.Tagged pi.payload.data ∧ pi.payload.data.length < 18
  · exact ⟨_, ofPacketIn_of_short_tag (by omega) htag.1 htag.2, _, _, _, rfl⟩
  have h18 : Frame.Tagged pi.payload.data → 18 ≤ pi.payload.data.length := fun ht =>
    Nat.not_lt.mp fun hlt => htag ⟨ht, hlt⟩
  rw [ofPacketIn_eq_readNetwork (by omega) h18]
  rcases h with h | h | ⟨harp, hlen⟩ | ⟨hip, hlen⟩
  · exact absurd h h14
  · exact absurd h htag
  · rw [readNetwork_of_arp (linkFlow xid pi) harp, withArp_of_short (linkFlow xid pi) hlen]
    exact ⟨_, rfl, _, _, _, rfl⟩
  · rw [readNetwork_of_ip (linkFlow xid pi) hip, withIpv4_of_short (linkFlow xid pi) hlen]
    exact ⟨_, rfl, _, _, _, rfl⟩

/-- A frame that is not short but of an ethernet type that is not read is refused for it. -/
theorem ofPacketIn_of_unknown (hs : ¬ Frame.Short pi.payload.data)
    (hk : ¬ Frame.KnownType (Frame.innerType pi.payload.data)) :
    ofPacketIn xid pi = .error (.unknownEtherType (Frame.innerType pi.payload.data)) := by
  rw [ofPacketIn_eq_readNetwork (Frame.linkReady hs).1 (Frame.linkReady hs).2]
  exact readNetwork_of_unknown (linkFlow xid pi) hk

/-- A frame that is not short and of an ethernet type that is read gives the flow its bytes
describe. -/
theorem ofPacketIn_of_known (hs : ¬ Frame.Short pi.payload.data)
    (hk : Frame.KnownType (Frame.innerType pi.payload.data)) :
    ∃ f, ofPacketIn xid pi = .ok f ∧ Reads xid pi f := by
  have hlink : ReadsLink xid pi (linkFlow xid pi) := readsLink_linkFlow (Frame.networkOffset_le hs)
  rw [ofPacketIn_eq_readNetwork (Frame.linkReady hs).1 (Frame.linkReady hs).2]
  simp only [Frame.Short, not_or, not_and, Nat.not_lt] at hs
  simp only [Frame.KnownType, List.mem_cons, List.not_mem_nil, or_false] at hk
  rcases hk with hip | harp | hpassive
  · rw [readNetwork_of_ip (linkFlow xid pi) hip]
    obtain ⟨g, hg, hgnet, hfields⟩ := withIpv4_of_le (linkFlow xid pi) (hs.2.2.2 hip)
    refine ⟨g, hg, ?_⟩
    rw [hgnet]
    refine ⟨hlink.withNet g.net, ?_⟩
    rw [net_withNet, NetworkFields, if_pos hip]
    exact hfields net_linkFlow
  · rw [readNetwork_of_arp (linkFlow xid pi) harp]
    obtain ⟨g, hg, hgnet, hfields⟩ := withArp_of_le (linkFlow xid pi) (hs.2.2.1 harp)
    refine ⟨g, hg, ?_⟩
    rw [hgnet]
    refine ⟨hlink.withNet g.net, ?_⟩
    rw [net_withNet, harp]
    exact hfields net_linkFlow
  · rw [readNetwork_of_passive (linkFlow xid pi) hpassive]
    refine ⟨_, rfl, hlink, ?_⟩
    have hip : Frame.innerType pi.payload.data ≠ 0x0800 := by
      rcases hpassive with h | h | h <;> rw [h] <;> decide
    have harp : Frame.innerType pi.payload.data ≠ 0x0806 := by
      rcases hpassive with h | h | h <;> rw [h] <;> decide
    rw [NetworkFields, if_neg hip, if_neg fun h => harp h.1]
    rfl

theorem ofPacketIn_truncation_iff :
    (∃ e, ofPacketIn xid pi = .error e ∧ e.IsTruncation) ↔ Frame.Short pi.payload.data := by
  refine ⟨fun ⟨e, he, htrunc⟩ => Decidable.byContradiction fun hs => ?_, ofPacketIn_of_short xid⟩
  by_cases hk : Frame.KnownType (Frame.innerType pi.payload.data)
  · obtain ⟨f, hf, -⟩ := ofPacketIn_of_known xid hs hk
    rw [hf] at he
    cases he
  · rw [ofPacketIn_of_unknown xid hs hk] at he
    obtain ⟨_, _, _, rfl⟩ := htrunc
    cases he

theorem ofPacketIn_unknown_iff (t : UInt16) :
    ofPacketIn xid pi = .error (.unknownEtherType t) ↔
      ¬ Frame.Short pi.payload.data ∧ ¬ Frame.KnownType t ∧
        be16 t = pi.payload.data.extract (Frame.networkOffset pi.payload.data - 2)
          (Frame.networkOffset pi.payload.data) := by
  constructor
  · intro h
    have hs : ¬ Frame.Short pi.payload.data := fun hs => by
      obtain ⟨e, he, ⟨_, _, _, rfl⟩⟩ := ofPacketIn_of_short xid hs
      rw [he] at h
      cases h
    by_cases hk : Frame.KnownType (Frame.innerType pi.payload.data)
    · obtain ⟨f, hf, -⟩ := ofPacketIn_of_known xid hs hk
      rw [hf] at h
      cases h
    · rw [ofPacketIn_of_unknown xid hs hk] at h
      cases h
      exact ⟨hs, hk, Frame.be16_innerType (Frame.networkOffset_le hs)⟩
  · rintro ⟨hs, hk, ht⟩
    obtain rfl : t = Frame.innerType pi.payload.data :=
      be16_inj (ht.trans (Frame.be16_innerType (Frame.networkOffset_le hs)).symm)
    exact ofPacketIn_of_unknown xid hs hk

theorem ofPacketIn_ok_iff (f : Flow) :
    ofPacketIn xid pi = .ok f ↔
      ¬ Frame.Short pi.payload.data ∧ Frame.KnownType (Frame.innerType pi.payload.data) ∧
        Reads xid pi f := by
  constructor
  · intro h
    have hs : ¬ Frame.Short pi.payload.data := fun hs => by
      obtain ⟨e, he, -⟩ := ofPacketIn_of_short xid hs
      rw [he] at h
      cases h
    have hk : Frame.KnownType (Frame.innerType pi.payload.data) :=
      Decidable.byContradiction fun hk => by
        rw [ofPacketIn_of_unknown xid hs hk] at h
        cases h
    obtain ⟨g, hg, hread⟩ := ofPacketIn_of_known xid hs hk
    rw [hg] at h
    cases h
    exact ⟨hs, hk, hread⟩
  · rintro ⟨hs, hk, hf⟩
    obtain ⟨g, hg, hread⟩ := ofPacketIn_of_known xid hs hk
    rw [hg, hread.unique hf]

/-- Reading a packet-in's frame looks at nothing past the frame's end. It fails with a
truncation exactly when the frame is short. It refuses the frame for its ethernet type exactly
when the frame is not short and that type, the two bytes in front of the network header, is
not one that is read. Otherwise it gives the flow that the frame's bytes describe. -/
theorem ofPacketIn_reads_frame (pi : PacketIn) :
    ((∃ e, ofPacketIn xid pi = .error e ∧ e.IsTruncation) ↔ Frame.Short pi.payload.data) ∧
      (∀ t, ofPacketIn xid pi = .error (.unknownEtherType t) ↔
        ¬ Frame.Short pi.payload.data ∧ ¬ Frame.KnownType t ∧
          be16 t = pi.payload.data.extract (Frame.networkOffset pi.payload.data - 2)
            (Frame.networkOffset pi.payload.data)) ∧
      (∀ f, ofPacketIn xid pi = .ok f ↔
        ¬ Frame.Short pi.payload.data ∧ Frame.KnownType (Frame.innerType pi.payload.data) ∧
          Reads xid pi f) :=
  ⟨ofPacketIn_truncation_iff xid, ofPacketIn_unknown_iff xid, ofPacketIn_ok_iff xid⟩

/-- A frame tagged twice is refused for the inner tag's type. -/
example : ofPacketIn 0 ⟨.notBuffered [0, 0, 0, 0, 0, 0, 0, 0, 0, 0, 0, 0,
    0x81, 0x00, 0x00, 0x05, 0x81, 0x00, 0x00, 0x05, 0x08, 0x00], 22, 1, .noMatch⟩ =
      .error (.unknownEtherType 0x8100) := rfl

end Flow

/-! ### Inserting a tag -/

namespace Frame

/-- The frame with an 802.1Q tag of control information `tci` inserted behind its two
addresses. -/
def withTag (tci : UInt16) (frame : List UInt8) : List UInt8 :=
  frame.take 12 ++ be16 0x8100 ++ be16 tci ++ frame.drop 12

variable {tci : UInt16} {frame : List UInt8}

theorem withTag_length (h : 12 ≤ frame.length) : (withTag tci frame).length = frame.length + 4 := by
  simp only [withTag, List.length_append, List.length_take, List.length_drop, be16_length]
  omega

/-- From offset 12 on, the tagged frame holds the tag and then the rest of the frame. -/
theorem withTag_drop_twelve (h : 12 ≤ frame.length) :
    (withTag tci frame).drop 12 = be16 0x8100 ++ be16 tci ++ frame.drop 12 := by
  rw [withTag, List.append_assoc, List.append_assoc, List.drop_left' (by simp; omega),
    List.append_assoc]

theorem withTag_drop_sixteen (h : 12 ≤ frame.length) :
    (withTag tci frame).drop 16 = frame.drop 12 := by
  rw [show 16 = 12 + 4 from rfl, ← List.drop_drop, withTag_drop_twelve h]
  rfl

/-- In front of the tag the frame is as it was. -/
theorem extract_withTag_front {i j : Nat} (hi : i ≤ j) (hj : j ≤ 12) (h : 12 ≤ frame.length) :
    (withTag tci frame).extract i j = frame.extract i j := by
  have hfront : (frame.take 12).length = 12 := by simp; omega
  rw [withTag, List.append_assoc, List.append_assoc, List.extract_eq_take_drop,
    List.drop_append_of_le_length (by omega), List.take_append_of_le_length (by simp; omega),
    List.drop_take, List.take_take, Nat.min_eq_left (by omega), List.extract_eq_take_drop]

theorem tagged_withTag (h : 12 ≤ frame.length) : Tagged (withTag tci frame) := by
  rw [Tagged, List.extract_eq_take_drop, withTag_drop_twelve h]
  rfl

theorem extract_withTag_tci (h : 12 ≤ frame.length) : (withTag tci frame).extract 14 16 = be16 tci := by
  rw [List.extract_eq_take_drop, show 14 = 12 + 2 from rfl, ← List.drop_drop, withTag_drop_twelve h]
  rfl

theorem networkOffset_withTag (h : 12 ≤ frame.length) : networkOffset (withTag tci frame) = 18 :=
  networkOffset_of_tagged (tagged_withTag h)

section Untagged

variable (hu : ¬ Tagged frame) (h : 12 ≤ frame.length)
include hu h

/-- The tagged frame's ethernet type, in front of its network header, is the untagged frame's. -/
theorem extract_withTag_type :
    (withTag tci frame).extract (networkOffset (withTag tci frame) - 2)
        (networkOffset (withTag tci frame)) =
      frame.extract (networkOffset frame - 2) (networkOffset frame) := by
  rw [networkOffset_withTag h, networkOffset_of_untagged hu, List.extract_eq_take_drop,
    List.extract_eq_take_drop, show 18 - 2 = 16 from rfl, withTag_drop_sixteen h]

theorem innerType_withTag : innerType (withTag tci frame) = innerType frame := by
  rw [innerType, innerType, networkOffset_withTag h, networkOffset_of_untagged hu,
    show 18 - 2 = 16 + 0 from rfl, ← word16At_drop, withTag_drop_sixteen h, word16At_drop]

/-- The tag moves the network header by four bytes and leaves it as it was. -/
theorem network_withTag : network (withTag tci frame) = network frame := by
  rw [network, network, networkOffset_withTag h, networkOffset_of_untagged hu,
    show 18 = 16 + 2 from rfl, ← List.drop_drop, withTag_drop_sixteen h, List.drop_drop]

theorem short_withTag_iff : Short (withTag tci frame) ↔ Short frame := by
  have hlen : (withTag tci frame).length = frame.length + 4 := withTag_length h
  simp only [Short, hlen, tagged_withTag h, hu, networkOffset_withTag h, networkOffset_of_untagged hu,
    innerType_withTag hu h, true_and, false_and, false_or]
  have h14 : ¬ frame.length + 4 < 14 := by omega
  have h18 : frame.length + 4 < 18 ↔ frame.length < 14 := by omega
  have harp : frame.length + 4 < 18 + 28 ↔ frame.length < 14 + 28 := by omega
  have hip : frame.length + 4 < 18 + 20 ↔ frame.length < 14 + 20 := by omega
  simp only [h14, h18, harp, hip, false_or]

end Untagged

end Frame

/-- Two packet-ins that carry the same buffer id, frame length, port and reason: they may
differ in their frames alone. -/
def PacketIn.SameHeader (p q : PacketIn) : Prop :=
  p.payload.bufferId = q.payload.bufferId ∧ p.totalLen = q.totalLen ∧ p.port = q.port ∧
    p.reason = q.reason

namespace Flow

variable {xid : UInt32} {tci : UInt16} {pf pg : PacketIn}

/-- The description of an untagged frame's flow, with the tag's fields and the network header
four bytes further on, describes the flow of the frame with the tag inserted. -/
theorem Reads.withTag (h : 12 ≤ pf.payload.data.length) (hu : ¬ Frame.Tagged pf.payload.data)
    (hframe : pg.payload.data = Frame.withTag tci pf.payload.data) (hsame : pf.SameHeader pg)
    {a : Flow} (ha : Reads xid pf a) :
    Reads xid pg { a with vlan := some ⟨tci &&& 0x0fff, (tci >>> 13).toUInt8⟩, l3Offset := 18 } := by
  obtain ⟨hbuf, htotal, hport, hreason⟩ := hsame
  refine ⟨⟨?_, ?_, ?_, ?_, ?_, ?_⟩, ?_⟩
  · exact ⟨ha.origin.1, by rw [← hbuf, ← htotal, ← hport, ← hreason]; exact ha.origin.2⟩
  · rw [hframe, Frame.extract_withTag_front (by omega) (by omega) h]
    exact ha.dlDst
  · rw [hframe, Frame.extract_withTag_front (by omega) (by omega) h]
    exact ha.dlSrc
  · rw [hframe, if_pos (Frame.tagged_withTag h)]
    exact ⟨tci, (Frame.extract_withTag_tci h).symm, rfl⟩
  · rw [hframe, Frame.extract_withTag_type hu h]
    exact ha.ethType
  · rw [hframe, Frame.networkOffset_withTag h]
  · rw [hframe, Frame.innerType_withTag hu h, Frame.network_withTag hu h]
    exact ha.network

/-- Inserting a tag into an untagged frame of at least 14 bytes changes nothing of how the frame
is read but the tag and where the network header starts. The tagged frame is read exactly when
the untagged one is, and into the same flow with the tag's fields and the offset 18 in place of
none and 14. Otherwise both fail the same way: both are cut short, or both are refused for the
same ethernet type. -/
theorem ofPacketIn_withTag (xid : UInt32) (tci : UInt16) {pf pg : PacketIn}
    (h14 : 14 ≤ pf.payload.data.length) (hu : ¬ Frame.Tagged pf.payload.data)
    (hframe : pg.payload.data = Frame.withTag tci pf.payload.data) (hsame : pf.SameHeader pg) :
    (∀ a, ofPacketIn xid pf = .ok a →
      a.vlan = none ∧ a.l3Offset = 14 ∧
        ofPacketIn xid pg =
          .ok { a with vlan := some ⟨tci &&& 0x0fff, (tci >>> 13).toUInt8⟩, l3Offset := 18 }) ∧
      (∀ e, ofPacketIn xid pf = .error e → ∃ e', ofPacketIn xid pg = .error e' ∧
        (e.IsTruncation ↔ e'.IsTruncation) ∧
          ∀ t, e = .unknownEtherType t ↔ e' = .unknownEtherType t) := by
  have h12 : 12 ≤ pf.payload.data.length := by omega
  have hshort : Frame.Short pg.payload.data ↔ Frame.Short pf.payload.data := by
    rw [hframe]
    exact Frame.short_withTag_iff hu h12
  have htype : Frame.innerType pg.payload.data = Frame.innerType pf.payload.data := by
    rw [hframe]
    exact Frame.innerType_withTag hu h12
  refine ⟨fun a ha => ?_, fun e he => ?_⟩
  · obtain ⟨hs, hk, hread⟩ := (ofPacketIn_ok_iff xid a).mp ha
    have hvlan : a.vlan = none := by
      have hv := hread.vlan
      rwa [if_neg hu] at hv
    refine ⟨hvlan, hread.l3Offset.trans (Frame.networkOffset_of_untagged hu), ?_⟩
    refine (ofPacketIn_ok_iff xid _).mpr ⟨fun hs' => hs (hshort.mp hs'), ?_,
      hread.withTag h12 hu hframe hsame⟩
    rw [htype]
    exact hk
  · rcases ofPacketIn_error_cases he with htrunc | ⟨t, rfl⟩
    · obtain ⟨e', he', htrunc'⟩ := ofPacketIn_of_short xid
        (hshort.mpr ((ofPacketIn_truncation_iff xid).mp ⟨e, he, htrunc⟩))
      refine ⟨e', he', iff_of_true htrunc htrunc', fun t => ?_⟩
      obtain ⟨_, _, _, rfl⟩ := htrunc
      obtain ⟨_, _, _, rfl⟩ := htrunc'
      exact iff_of_false (fun h => by cases h) (fun h => by cases h)
    · obtain ⟨hs, hk, hbytes⟩ := (ofPacketIn_unknown_iff xid t).mp he
      refine ⟨_, (ofPacketIn_unknown_iff xid t).mpr ⟨fun hs' => hs (hshort.mp hs'), hk, ?_⟩,
        Iff.rfl, fun _ => Iff.rfl⟩
      rw [hframe, Frame.extract_withTag_type hu h12]
      exact hbytes

/-- A broadcast of 38 bytes from `aa:aa:aa:aa:aa:01`: an IPv4 header without options from
10.0.0.1 to 10.0.0.2, and the UDP ports 68 and 67. -/
def udpFrame : List UInt8 :=
  [0xff, 0xff, 0xff, 0xff, 0xff, 0xff, 0xaa, 0xaa, 0xaa, 0xaa, 0xaa, 0x01, 0x08, 0x00,
   0x45, 0x00, 0x00, 0x18, 0x00, 0x00, 0x00, 0x00, 0x40, 0x11, 0x00, 0x00,
   0x0a, 0x00, 0x00, 0x01, 0x0a, 0x00, 0x00, 0x02,
   0x00, 0x44, 0x00, 0x43]

/-- A frame received on port 1 for no flow entry and held in no buffer. -/
def udpIn (frame : List UInt8) : PacketIn :=
  ⟨.notBuffered frame, 38, 1, .noMatch⟩

theorem udpFrame_tagged_alike :
    14 ≤ udpFrame.length ∧ ¬ Frame.Tagged udpFrame ∧
      (udpIn (Frame.withTag 0x2064 udpFrame)).payload.data =
        Frame.withTag 0x2064 (udpIn udpFrame).payload.data ∧
      (udpIn udpFrame).SameHeader (udpIn (Frame.withTag 0x2064 udpFrame)) ∧
      (∀ a, ofPacketIn 7 (udpIn udpFrame) = .ok a →
        a.vlan = none ∧ a.l3Offset = 14 ∧
          ofPacketIn 7 (udpIn (Frame.withTag 0x2064 udpFrame)) =
            .ok { a with vlan := some ⟨0x2064 &&& 0x0fff, ((0x2064 : UInt16) >>> 13).toUInt8⟩,
                         l3Offset := 18 }) ∧
        (∀ e, ofPacketIn 7 (udpIn udpFrame) = .error e →
          ∃ e', ofPacketIn 7 (udpIn (Frame.withTag 0x2064 udpFrame)) = .error e' ∧
            (e.IsTruncation ↔ e'.IsTruncation) ∧
              ∀ t, e = .unknownEtherType t ↔ e' = .unknownEtherType t) :=
  ⟨by decide, by decide, rfl, ⟨rfl, rfl, rfl, rfl⟩,
    ofPacketIn_withTag 7 0x2064 (by decide) (by decide) rfl ⟨rfl, rfl, rfl, rfl⟩⟩

end Flow

end OpenFlow
