import OpenFlow.Text.Utf8

/-!
# Lenient UTF-8 decoding of well-formed text

Well-formed UTF-8 reads back as its characters: `decodeLossy_utf8EncodeChar` reads one encoded
character off the front of a byte string, whatever follows it, and `stringOfUtf8Lossy_toUTF8`
reads every string back from its UTF-8 bytes. The proof goes through the shape of the lead
byte (`leadShape_eq`) and one unfolding lemma per sequence length (`decodeLossy_one` to
`decodeLossy_four`); the ranges that keep overlong forms, surrogates and code points above
`U+10FFFF` out are met because a `Char` is a Unicode scalar value.
-/

namespace OpenFlow.Text

/-! ### Lead and continuation bytes -/

theorem inRange_iff (lo hi b : UInt8) :
    inRange lo hi b = true ↔ lo.toNat ≤ b.toNat ∧ b.toNat ≤ hi.toNat := by
  simp [inRange, UInt8.le_iff_toNat_le]

theorem isContinuation_of {b : UInt8} (h : 0x80 ≤ b.toNat ∧ b.toNat ≤ 0xBF) :
    isContinuation b = true :=
  (inRange_iff 0x80 0xBF b).2 h

/-- The shape of a lead byte, read off its value. -/
theorem leadShape_eq (b : UInt8) :
    leadShape b =
      if 0xC2 ≤ b.toNat ∧ b.toNat ≤ 0xDF then some (2, 0x80, 0xBF)
      else if b.toNat = 0xE0 then some (3, 0xA0, 0xBF)
      else if b.toNat = 0xED then some (3, 0x80, 0x9F)
      else if 0xE1 ≤ b.toNat ∧ b.toNat ≤ 0xEF then some (3, 0x80, 0xBF)
      else if b.toNat = 0xF0 then some (4, 0x90, 0xBF)
      else if b.toNat = 0xF4 then some (4, 0x80, 0x8F)
      else if 0xF1 ≤ b.toNat ∧ b.toNat ≤ 0xF3 then some (4, 0x80, 0xBF)
      else none := by
  simp only [leadShape, inRange_iff, beq_iff_eq, ← UInt8.toNat_inj]
  rfl

/-! ### One sequence at a time -/

theorem decodeLossy_one {b : UInt8} (rest : List UInt8) (h : b.toNat < 0x80) :
    decodeLossy (b :: rest) = Char.ofNat b.toNat :: decodeLossy rest := by
  rw [decodeLossy]
  simp [UInt8.lt_iff_toNat_lt, h]

theorem decodeLossy_two {b0 b1 lo hi : UInt8} (rest : List UInt8)
    (hlead : leadShape b0 = some (2, lo, hi)) (h0 : 0x80 ≤ b0.toNat)
    (h1 : lo.toNat ≤ b1.toNat ∧ b1.toNat ≤ hi.toNat) :
    decodeLossy (b0 :: b1 :: rest) =
      Char.ofNat ((b0.toNat % 32) * 64 + payload b1) :: decodeLossy rest := by
  rw [decodeLossy]
  simp [hlead, UInt8.lt_iff_toNat_lt, show ¬ b0.toNat < 128 by omega, (inRange_iff _ _ _).2 h1]

theorem decodeLossy_three {b0 b1 b2 lo hi : UInt8} (rest : List UInt8)
    (hlead : leadShape b0 = some (3, lo, hi)) (h0 : 0x80 ≤ b0.toNat)
    (h1 : lo.toNat ≤ b1.toNat ∧ b1.toNat ≤ hi.toNat) (h2 : 0x80 ≤ b2.toNat ∧ b2.toNat ≤ 0xBF) :
    decodeLossy (b0 :: b1 :: b2 :: rest) =
      Char.ofNat ((b0.toNat % 16) * 4096 + payload b1 * 64 + payload b2) :: decodeLossy rest := by
  rw [decodeLossy]
  simp [hlead, UInt8.lt_iff_toNat_lt, show ¬ b0.toNat < 128 by omega, (inRange_iff _ _ _).2 h1,
    isContinuation_of h2]

theorem decodeLossy_four {b0 b1 b2 b3 lo hi : UInt8} (rest : List UInt8)
    (hlead : leadShape b0 = some (4, lo, hi)) (h0 : 0x80 ≤ b0.toNat)
    (h1 : lo.toNat ≤ b1.toNat ∧ b1.toNat ≤ hi.toNat) (h2 : 0x80 ≤ b2.toNat ∧ b2.toNat ≤ 0xBF)
    (h3 : 0x80 ≤ b3.toNat ∧ b3.toNat ≤ 0xBF) :
    decodeLossy (b0 :: b1 :: b2 :: b3 :: rest) =
      Char.ofNat ((b0.toNat % 8) * 262144 + payload b1 * 4096 + payload b2 * 64 + payload b3) ::
        decodeLossy rest := by
  rw [decodeLossy]
  simp [hlead, UInt8.lt_iff_toNat_lt, show ¬ b0.toNat < 128 by omega, (inRange_iff _ _ _).2 h1,
    isContinuation_of h2, isContinuation_of h3]

/-! ### Encoded characters read back -/

/-- An encoded character reads back as itself, whatever bytes follow it. -/
theorem decodeLossy_utf8EncodeChar (c : Char) (rest : List UInt8) :
    decodeLossy (String.utf8EncodeChar c ++ rest) = c :: decodeLossy rest := by
  have hvalid : c.toNat < 0xd800 ∨ (0xdfff < c.toNat ∧ c.toNat < 0x110000) := by
    simpa [UInt32.isValidChar, Nat.isValidChar] using c.valid
  have hback (n : Nat) (h : n = c.toNat) : Char.ofNat n = c := by rw [h, Char.ofNat_toNat]
  have hbyte {n : Nat} (h : n < 256) : (UInt8.ofNat n).toNat = n := UInt8.toNat_ofNat_of_lt' h
  have hn : c.val.toNat = c.toNat := rfl
  simp only [String.utf8EncodeChar, hn]
  by_cases h1 : c.toNat ≤ 0x7f
  · rw [if_pos h1, List.singleton_append, decodeLossy_one _ (by rw [hbyte (by omega)]; omega),
      hbyte (by omega), hback _ rfl]
  by_cases h2 : c.toNat ≤ 0x7ff
  · rw [if_neg h1, if_pos h2, List.cons_append, List.singleton_append]
    have hb0 := hbyte (show c.toNat / 64 % 32 + 192 < 256 by omega)
    have hb1 := hbyte (show c.toNat % 64 + 128 < 256 by omega)
    have hlead : leadShape (UInt8.ofNat (c.toNat / 64 % 32 + 192)) = some (2, 0x80, 0xBF) := by
      rw [leadShape_eq, hb0]
      simp (disch := omega) only [if_pos]
    rw [decodeLossy_two rest hlead (by omega) (by simp only [hb1, UInt8.reduceToNat]; omega), hb0]
    simp only [payload, hb1]
    rw [hback _ (by omega)]
  by_cases h3 : c.toNat ≤ 0xffff
  · rw [if_neg h1, if_neg h2, if_pos h3, List.cons_append, List.cons_append, List.singleton_append]
    have hb0 := hbyte (show c.toNat / 4096 % 16 + 224 < 256 by omega)
    have hb1 := hbyte (show c.toNat / 64 % 64 + 128 < 256 by omega)
    have hb2 := hbyte (show c.toNat % 64 + 128 < 256 by omega)
    have hlead : ∃ lo hi : UInt8, leadShape (UInt8.ofNat (c.toNat / 4096 % 16 + 224)) =
        some (3, lo, hi) ∧ lo.toNat ≤ c.toNat / 64 % 64 + 128 ∧
          c.toNat / 64 % 64 + 128 ≤ hi.toNat := by
      rw [leadShape_eq, hb0]
      by_cases hE0 : c.toNat / 4096 = 0
      · exact ⟨0xA0, 0xBF, by simp (disch := omega) only [if_pos, if_neg],
          by simp only [UInt8.reduceToNat]; omega⟩
      by_cases hED : c.toNat / 4096 = 13
      · exact ⟨0x80, 0x9F, by simp (disch := omega) only [if_pos, if_neg],
          by simp only [UInt8.reduceToNat]; omega⟩
      · exact ⟨0x80, 0xBF, by simp (disch := omega) only [if_pos, if_neg],
          by simp only [UInt8.reduceToNat]; omega⟩
    obtain ⟨lo, hi, hshape, hlo, hhi⟩ := hlead
    rw [decodeLossy_three rest hshape (by omega) (by rw [hb1]; omega) (by omega), hb0]
    simp only [payload, hb1, hb2]
    rw [hback _ (by omega)]
  rw [if_neg h1, if_neg h2, if_neg h3, List.cons_append, List.cons_append, List.cons_append,
    List.singleton_append]
  have hb0 := hbyte (show c.toNat / 262144 % 8 + 240 < 256 by omega)
  have hb1 := hbyte (show c.toNat / 4096 % 64 + 128 < 256 by omega)
  have hb2 := hbyte (show c.toNat / 64 % 64 + 128 < 256 by omega)
  have hb3 := hbyte (show c.toNat % 64 + 128 < 256 by omega)
  have hlead : ∃ lo hi : UInt8, leadShape (UInt8.ofNat (c.toNat / 262144 % 8 + 240)) =
      some (4, lo, hi) ∧ lo.toNat ≤ c.toNat / 4096 % 64 + 128 ∧
        c.toNat / 4096 % 64 + 128 ≤ hi.toNat := by
    rw [leadShape_eq, hb0]
    by_cases hF0 : c.toNat / 262144 = 0
    · exact ⟨0x90, 0xBF, by simp (disch := omega) only [if_pos, if_neg],
        by simp only [UInt8.reduceToNat]; omega⟩
    by_cases hF4 : c.toNat / 262144 = 4
    · exact ⟨0x80, 0x8F, by simp (disch := omega) only [if_pos, if_neg],
        by simp only [UInt8.reduceToNat]; omega⟩
    · exact ⟨0x80, 0xBF, by simp (disch := omega) only [if_pos, if_neg],
        by simp only [UInt8.reduceToNat]; omega⟩
  obtain ⟨lo, hi, hshape, hlo, hhi⟩ := hlead
  rw [decodeLossy_four rest hshape (by omega) (by rw [hb1]; omega) (by omega) (by omega), hb0]
  simp only [payload, hb1, hb2, hb3]
  rw [hback _ (by omega)]

theorem decodeLossy_flatMap_utf8EncodeChar (cs : List Char) :
    decodeLossy (cs.flatMap String.utf8EncodeChar) = cs := by
  induction cs with
  | nil => simp [decodeLossy]
  | cons c cs ih => rw [List.flatMap_cons, decodeLossy_utf8EncodeChar, ih]

/-! ### Strings -/

theorem byteArray_toList_loop (data : Array UInt8) (i : Nat) (r : List UInt8) :
    ByteArray.toList.loop ⟨data⟩ i r = r.reverse ++ data.toList.drop i := by
  fun_induction ByteArray.toList.loop ⟨data⟩ i r with
  | case1 i r hi ih =>
    have hsize : i < data.size := hi
    have hlen : i < data.toList.length := by simpa using hsize
    have hget : ByteArray.get! ⟨data⟩ i = data.toList[i] := by
      simp [ByteArray.get!, getElem!_pos data i hsize]
    rw [ih, List.reverse_cons, List.append_assoc, List.singleton_append, hget,
      List.getElem_cons_drop]
  | case2 i r hi =>
    have hlen : data.toList.length ≤ i := by
      rw [Array.length_toList]
      exact Nat.le_of_not_lt hi
    simp [List.drop_eq_nil_of_le hlen]

theorem byteArray_toList (bs : ByteArray) : bs.toList = bs.data.toList := by
  obtain ⟨data⟩ := bs
  simp [ByteArray.toList, byteArray_toList_loop]

/-- A string's UTF-8 bytes are its characters' encodings, one after the other. -/
theorem toUTF8_toList (s : String) :
    s.toUTF8.toList = s.toList.flatMap String.utf8EncodeChar := by
  have h := congrArg (fun t => t.toByteArray.data.toList) (String.ofList_toList (s := s))
  simp only [String.toByteArray_ofList, List.utf8Encode, List.toList_data_toByteArray] at h
  rw [byteArray_toList, String.toUTF8_eq_toByteArray, ← h]

/-- Every string reads back from its UTF-8 bytes. -/
theorem stringOfUtf8Lossy_toUTF8 (s : String) : stringOfUtf8Lossy s.toUTF8.toList = s := by
  rw [stringOfUtf8Lossy, toUTF8_toList, decodeLossy_flatMap_utf8EncodeChar, String.ofList_toList]

end OpenFlow.Text
