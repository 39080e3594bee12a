import OpenFlow.Net.Address
import Mathlib.Algebra.Group.Nat.Defs

/-!
# Big-endian words read back

The words built from bytes (`word16`, `word32`) as numbers (`word16_toNat`, `word32_toNat`),
the byte images of words read back as the same words (`word16_bytes`, `word32_bytes`), and
bytes read as a word written back as the same bytes (`be16_word16`, `be32_word32`). The
decoder's steps are then stated on what the encoders write: `Decoder.u16_run`,
`Decoder.u32_run` and `Decoder.u64_run` read a word from its big-endian bytes and leave the
rest of the buffer. `Decoder.run_bind` and `Decoder.run_pure` let a decoder written with `do`
be run one step after the other by `simp only`.
-/

namespace OpenFlow

/-! ### Words as numbers -/

/-- A number shifted past the bits of a smaller one is added to it by `|||`. -/
theorem or_shiftLeft_eq_add {k b : Nat} (a : Nat) (hb : b < 2 ^ k) :
    a <<< k ||| b = a * 2 ^ k + b := by
  rw [← Nat.shiftLeft_add_eq_or_of_lt hb, Nat.shiftLeft_eq]

theorem shiftLeft_or_shiftLeft {k m b : Nat} (a : Nat) (hb : b < 2 ^ k) :
    a <<< (k + m) ||| b <<< m = (a * 2 ^ k + b) <<< m := by
  rw [← or_shiftLeft_eq_add a hb, Nat.shiftLeft_or_distrib, Nat.shiftLeft_add]

theorem word16_toNat (hi lo : UInt8) : (word16 hi lo).toNat = hi.toNat * 2 ^ 8 + lo.toNat := by
  have hshift : (hi.toUInt16 <<< 8).toNat = hi.toNat <<< 8 := by
    have := hi.toNat_lt
    simp [UInt16.toNat_shiftLeft, Nat.shiftLeft_eq]
    omega
  rw [word16, UInt16.toNat_or, hshift, UInt8.toNat_toUInt16, or_shiftLeft_eq_add _ lo.toNat_lt]

theorem word32_toNat (a b c d : UInt8) :
    (word32 a b c d).toNat = a.toNat * 2 ^ 24 + b.toNat * 2 ^ 16 + c.toNat * 2 ^ 8 + d.toNat := by
  have := a.toNat_lt
  have := b.toNat_lt
  have := c.toNat_lt
  have ha : (a.toUInt32 <<< 24).toNat = a.toNat <<< (8 + 16) := by
    simp [UInt32.toNat_shiftLeft, Nat.shiftLeft_eq]
    omega
  have hb : (b.toUInt32 <<< 16).toNat = b.toNat <<< 16 := by
    simp [UInt32.toNat_shiftLeft, Nat.shiftLeft_eq]
    omega
  have hc : (c.toUInt32 <<< 8).toNat = c.toNat <<< 8 := by
    simp [UInt32.toNat_shiftLeft, Nat.shiftLeft_eq]
    omega
  simp only [word32, UInt32.toNat_or, ha, hb, hc, UInt8.toNat_toUInt32]
  rw [shiftLeft_or_shiftLeft _ b.toNat_lt, show 16 = 8 + 8 from rfl,
    shiftLeft_or_shiftLeft _ c.toNat_lt, or_shiftLeft_eq_add _ d.toNat_lt]
  omega

/-! ### Bytes read back as words -/

theorem word16_bytes (w : UInt16) : word16 (w >>> 8).toUInt8 w.toUInt8 = w := by
  apply UInt16.toNat_inj.mp
  have := w.toNat_lt
  rw [word16_toNat]
  simp [UInt16.toNat_shiftRight, Nat.shiftRight_eq_div_pow]
  omega

theorem word32_bytes (w : UInt32) :
    word32 (w >>> 24).toUInt8 (w >>> 16).toUInt8 (w >>> 8).toUInt8 w.toUInt8 = w := by
  apply UInt32.toNat_inj.mp
  have := w.toNat_lt
  rw [word32_toNat]
  simp [UInt32.toNat_shiftRight, Nat.shiftRight_eq_div_pow]
  omega

/-- Two bytes read as a word are written back as the same two bytes. -/
theorem be16_word16 (a b : UInt8) : be16 (word16 a b) = [a, b] := by
  have := a.toNat_lt
  have := b.toNat_lt
  have hw := word16_toNat a b
  simp only [be16, List.cons.injEq, and_true]
  constructor <;> apply UInt8.toNat_inj.mp <;>
    simp [UInt16.toNat_shiftRight, hw, Nat.shiftRight_eq_div_pow] <;> omega

theorem be32_word32 (a b c d : UInt8) : be32 (word32 a b c d) = [a, b, c, d] := by
  have := a.toNat_lt
  have := b.toNat_lt
  have := c.toNat_lt
  have := d.toNat_lt
  have hw := word32_toNat a b c d
  simp only [be32, List.cons.injEq, and_true]
  refine ⟨?_, ?_, ?_, ?_⟩ <;> apply UInt8.toNat_inj.mp <;>
    simp [UInt32.toNat_shiftRight, hw, Nat.shiftRight_eq_div_pow] <;> omega

/-- The two halves of a 64-bit word put back together. -/
theorem halves_or (w : UInt64) :
    ((w >>> 32).toUInt32.toUInt64 <<< 32) ||| w.toUInt32.toUInt64 = w := by
  apply UInt64.toNat_inj.mp
  have := w.toNat_lt
  have hhi : ((w >>> 32).toUInt32.toUInt64 <<< 32).toNat = (w.toNat / 2 ^ 32) <<< 32 := by
    simp [UInt64.toNat_shiftLeft, UInt64.toNat_shiftRight, Nat.shiftLeft_eq,
      Nat.shiftRight_eq_div_pow]
    omega
  have hlo : w.toUInt32.toUInt64.toNat = w.toNat % 2 ^ 32 := by simp
  have hmod : w.toNat % 2 ^ 32 < 2 ^ 32 := Nat.mod_lt _ (by decide)
  rw [UInt64.toNat_or, hhi, hlo, or_shiftLeft_eq_add _ hmod]
  omega

@[simp] theorem be16_length (w : UInt16) : (be16 w).length = 2 := rfl

@[simp] theorem be32_length (w : UInt32) : (be32 w).length = 4 := rfl

@[simp] theorem be64_length (w : UInt64) : (be64 w).length = 8 := rfl

@[simp] theorem padding_length (n : Nat) : (padding n).length = n := List.length_replicate

/-! ### Running the decoder -/

@[simp] theorem except_ok_bind {ε α β : Type} (a : α) (k : α → Except ε β) :
    (Except.ok a >>= k) = k a :=
  rfl

@[simp] theorem except_pure {ε α : Type} (a : α) : (pure a : Except ε α) = .ok a :=
  rfl

@[simp] theorem except_map_ok {ε α β : Type} (f : α → β) (a : α) :
    (Except.ok a : Except ε α).map f = .ok (f a) :=
  rfl

/-- A bound computation that fails failed in its first step, or in the second after the first
succeeded. -/
theorem except_error_of_bind {ε α β : Type} {x : Except ε α} {k : α → Except ε β} {e : ε}
    (h : (x >>= k) = .error e) : x = .error e ∨ ∃ a, x = .ok a ∧ k a = .error e := by
  cases x with
  | error e' =>
    change Except.error e' = Except.error e at h
    obtain rfl := Except.error.inj h
    exact .inl rfl
  | ok a => exact .inr ⟨a, rfl, h⟩

theorem except_ok_of_bind {ε α β : Type} {x : Except ε α} {k : α → Except ε β} {b : β}
    (h : (x >>= k) = .ok b) : ∃ a, x = .ok a ∧ k a = .ok b := by
  cases x with
  | error e => cases h
  | ok a => exact ⟨a, rfl, h⟩

/-- A value built from what a computation gives fails only where the computation does. -/
theorem except_error_of_bind_pure {ε α β : Type} {x : Except ε α} {f : α → β} {e : ε}
    (h : (x >>= fun a => pure (f a)) = .error e) : x = .error e := by
  rcases except_error_of_bind h with hx | ⟨_, _, h⟩
  · exact hx
  · cases h

namespace Decoder

variable {α β : Type}

@[simp] theorem run_bind (d : Decoder α) (k : α → Decoder β) (bs : List UInt8) :
    (d >>= k).run bs = match d.run bs with
      | .ok (a, rest) => (k a).run rest
      | .error e => .error e := by
  simp only [StateT.run_bind]
  rcases d.run bs with e | ⟨a, rest⟩ <;> rfl

@[simp] theorem run_pure (a : α) (bs : List UInt8) : (pure a : Decoder α).run bs = .ok (a, bs) :=
  rfl

@[simp] theorem byte_run (b : UInt8) (rest : List UInt8) : byte.run (b :: rest) = .ok (b, rest) :=
  rfl

@[simp] theorem skip_run (n : Nat) (bs : List UInt8) : (skip n).run bs = .ok ((), bs.drop n) :=
  rfl

theorem skip_padding_run (n : Nat) (rest : List UInt8) :
    (skip n).run (padding n ++ rest) = .ok ((), rest) := by
  simp [padding]

theorem take_run (bs rest : List UInt8) : (take bs.length).run (bs ++ rest) = .ok (bs, rest) := by
  simp [StateT.run, take]

theorem u16_run (w : UInt16) (rest : List UInt8) : u16.run (be16 w ++ rest) = .ok (w, rest) := by
  simp only [u16, be16, run_bind, byte_run, run_pure, List.cons_append, List.nil_append,
    word16_bytes]

theorem u32_run (w : UInt32) (rest : List UInt8) : u32.run (be32 w ++ rest) = .ok (w, rest) := by
  simp only [u32, be32, run_bind, byte_run, run_pure, List.cons_append, List.nil_append,
    word32_bytes]

theorem u64_run (w : UInt64) (rest : List UInt8) : u64.run (be64 w ++ rest) = .ok (w, rest) := by
  simp only [u64, be64, List.append_assoc, run_bind, u32_run, run_pure, halves_or]

end Decoder

theorem MacAddr.decoder_run (m : MacAddr) (rest : List UInt8) :
    MacAddr.decoder.run (m.toList ++ rest) = .ok (m, rest) := by
  simp only [MacAddr.decoder, MacAddr.toList, Decoder.run_bind, Decoder.byte_run,
    Decoder.run_pure, List.cons_append, List.nil_append]

end OpenFlow
