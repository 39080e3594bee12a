import OpenFlow.Wire.Match

/-!
# The prefix counts of a wildcard word

A wildcard word holds two six-bit counts of ignored low-order IPv4 bits, the source's at bits
8..13 and the destination's at bits 14..19; every other bit is a flag or unknown. Both setters
are `Wildcards.withField` at their own shift, so everything is proved once about `withField`
and `field` at any shift whose field fits the word (`getLsbD_withField`, `field_withField`,
`field_withField_of_disjoint`, `withField_comm`).

Main statement: `nwBits_set_and_frame`. Setting a count reads back as the value capped at 32,
changes no bit outside its own field, leaves the other count alone, and the two setters commute.
-/

namespace OpenFlow.Wildcards

/-- The six-bit mask `0x3f` has exactly its six low bits set. -/
theorem getLsbD_fieldMask (j : Nat) : (63#32).getLsbD j = decide (j < 6) := by
  rw [BitVec.getLsbD_ofNat, show (63 : Nat) = 2 ^ 6 - 1 from rfl, Nat.testBit_two_pow_sub_one]
  by_cases hj : j < 6
  · simp [hj]; omega
  · simp [hj]

theorem toNat_capped_le (v : UInt32) : (min v 32).toNat ≤ 32 := by
  show (if v ≤ 32 then v else 32).toNat ≤ 32
  split
  · rename_i h
    exact UInt32.le_iff_toNat_le.mp h
  · simp

/-- A count capped at 32 has no bit at or above the sixth. -/
theorem getLsbD_capped (v : UInt32) {j : Nat} (hj : 6 ≤ j) :
    (min v 32).toBitVec.getLsbD j = false := by
  rw [← BitVec.testBit_toNat]
  apply Nat.testBit_lt_two_pow
  calc (min v 32).toBitVec.toNat ≤ 32 := toNat_capped_le v
    _ < 2 ^ 6 := by decide
    _ ≤ 2 ^ j := Nat.pow_le_pow_right (by decide) hj

variable (w : Wildcards) {s t : UInt32}

/-- Bit `i` after `withField s v`: inside the field it is the capped value's bit, outside it
is the old word's bit. -/
theorem getLsbD_withField (v : UInt32) (hs : s.toNat + 6 ≤ 32) (i : Nat) :
    (w.withField s v).bits.toBitVec.getLsbD i =
      if s.toNat ≤ i ∧ i < s.toNat + 6 then (min v 32).toBitVec.getLsbD (i - s.toNat)
      else w.bits.toBitVec.getLsbD i := by
  have hmod : s.toNat % 32 = s.toNat := Nat.mod_eq_of_lt (by omega)
  simp only [withField, UInt32.toBitVec_or, UInt32.toBitVec_and, UInt32.toBitVec_not,
    UInt32.toBitVec_shiftLeft]
  simp [hmod, getLsbD_fieldMask]
  by_cases hfield : s.toNat ≤ i ∧ i < s.toNat + 6
  · have hlo : ¬ i < s.toNat := by omega
    have h32 : i < 32 := by omega
    have hin : i - s.toNat < 6 := by omega
    simp [hfield, hlo, h32, hin]
  · rw [if_neg hfield]
    by_cases h32 : i < 32
    · rcases (by omega : i < s.toNat ∨ ¬ i - s.toNat < 6) with hout | hout <;> simp [hout, h32]
    · simp [h32, BitVec.getLsbD_of_ge _ _ (by omega : 32 ≤ i)]

/-- A bit outside the field at `s` is the old word's bit. -/
theorem testBit_withField_of_outside (v : UInt32) (hs : s.toNat + 6 ≤ 32) (i : Nat)
    (hi : i < s.toNat ∨ s.toNat + 6 ≤ i) :
    (w.withField s v).bits.toNat.testBit i = w.bits.toNat.testBit i := by
  rw [← UInt32.toNat_toBitVec, ← UInt32.toNat_toBitVec, BitVec.testBit_toNat,
    BitVec.testBit_toNat, getLsbD_withField _ _ hs, if_neg (by omega)]

/-- Bit `j` of the count at `t` is bit `t + j` of the word, for the six bits of the count. -/
theorem getLsbD_field (ht : t.toNat + 6 ≤ 32) (j : Nat) :
    (w.field t).toBitVec.getLsbD j = (decide (j < 6) && w.bits.toBitVec.getLsbD (t.toNat + j)) := by
  have hmod : t.toNat % 32 = t.toNat := Nat.mod_eq_of_lt (by omega)
  simp only [field, UInt32.toBitVec_and, UInt32.toBitVec_shiftRight]
  simp [hmod, getLsbD_fieldMask, Bool.and_comm]

/-- Two words are equal when all their bits are. -/
theorem ext_getLsbD {w w' : Wildcards} (h : ∀ i, w.bits.toBitVec.getLsbD i = w'.bits.toBitVec.getLsbD i) :
    w = w' := by
  cases w
  cases w'
  congr
  exact UInt32.toBitVec_inj.mp (BitVec.eq_of_getLsbD_eq fun i _ => h i)

/-- The count written at `s` reads back as the value capped at 32. -/
theorem field_withField (v : UInt32) (hs : s.toNat + 6 ≤ 32) :
    (w.withField s v).field s = min v 32 := by
  apply UInt32.toBitVec_inj.mp
  apply BitVec.eq_of_getLsbD_eq
  intro j _
  rw [getLsbD_field _ hs, getLsbD_withField _ _ hs]
  by_cases hj : j < 6
  · simp [hj]
  · simp [hj, getLsbD_capped v (Nat.le_of_not_lt hj)]

/-- Writing the count at `s` leaves a count at `t` whose bits do not meet it. -/
theorem field_withField_of_disjoint (v : UInt32) (hs : s.toNat + 6 ≤ 32) (ht : t.toNat + 6 ≤ 32)
    (hst : s.toNat + 6 ≤ t.toNat ∨ t.toNat + 6 ≤ s.toNat) :
    (w.withField s v).field t = w.field t := by
  apply UInt32.toBitVec_inj.mp
  apply BitVec.eq_of_getLsbD_eq
  intro j _
  rw [getLsbD_field _ ht, getLsbD_field _ ht, getLsbD_withField _ _ hs]
  by_cases hj : j < 6
  · have hout : ¬ (s.toNat ≤ t.toNat + j ∧ t.toNat + j < s.toNat + 6) := by omega
    simp [hout]
  · simp [hj]

/-- Writes to two counts whose bits do not meet commute. -/
theorem withField_comm (v u : UInt32) (hs : s.toNat + 6 ≤ 32) (ht : t.toNat + 6 ≤ 32)
    (hst : s.toNat + 6 ≤ t.toNat ∨ t.toNat + 6 ≤ s.toNat) :
    (w.withField s v).withField t u = (w.withField t u).withField s v := by
  apply ext_getLsbD
  intro i
  simp only [getLsbD_withField _ _ hs, getLsbD_withField _ _ ht]
  by_cases his : s.toNat ≤ i ∧ i < s.toNat + 6
  · have hit : ¬ (t.toNat ≤ i ∧ i < t.toNat + 6) := by omega
    simp [his, hit]
  · simp [his]

/-- Setting either prefix count reads back as the value capped at 32 and changes no bit outside
that count's own six bits: no flag, no unknown bit and not the other count; the two setters
commute. -/
theorem nwBits_set_and_frame (v u : UInt32) :
    (w.withNwSrcBits v).nwSrcBits = min v 32 ∧
    (∀ i, (i < 8 ∨ 14 ≤ i) → (w.withNwSrcBits v).bits.toNat.testBit i = w.bits.toNat.testBit i) ∧
    (w.withNwDstBits v).nwDstBits = min v 32 ∧
    (∀ i, (i < 14 ∨ 20 ≤ i) → (w.withNwDstBits v).bits.toNat.testBit i = w.bits.toNat.testBit i) ∧
    (w.withNwSrcBits v).nwDstBits = w.nwDstBits ∧
    (w.withNwDstBits v).nwSrcBits = w.nwSrcBits ∧
    (w.withNwSrcBits v).withNwDstBits u = (w.withNwDstBits u).withNwSrcBits v := by
  have hsrc : nwSrcShift.toNat + 6 ≤ 32 := by decide
  have hdst : nwDstShift.toNat + 6 ≤ 32 := by decide
  have hapart : nwSrcShift.toNat + 6 ≤ nwDstShift.toNat ∨ nwDstShift.toNat + 6 ≤ nwSrcShift.toNat :=
    by decide
  refine ⟨field_withField w v hsrc, testBit_withField_of_outside w v hsrc, field_withField w v hdst,
    testBit_withField_of_outside w v hdst, field_withField_of_disjoint w v hsrc hdst hapart,
    field_withField_of_disjoint w v hdst hsrc hapart.symm, withField_comm w v u hsrc hdst hapart⟩

/-- The input-port flag with eight ignored source bits and a destination count of 40, capped. -/
example : ((Wildcards.mk inPort).withNwSrcBits 8 |>.withNwDstBits 40).bits = 0x80801 := by decide

end OpenFlow.Wildcards
