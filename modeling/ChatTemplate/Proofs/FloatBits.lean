/-
# ChatTemplate.Proofs.FloatBits -- a float and its parts

The operations on floats take their operands apart into a sign, a mantissa and an exponent,
compute with these and put the result together again.  `Binary.ofFloat` reads the same parts off
the bits (`Binary.ofFloat_eq`), and nothing is lost on the way through the bits
(`unpack_pack`) as long as the parts are those of a float: a mantissa of 53 bits, unless the
exponent is the smallest there is, and an exponent in range (`Canonical`).
-/
import Mathlib
import ChatTemplate.Decimal.Binary

namespace ChatTemplate.Decimal

set_option autoImplicit false

open Float.Model Float.Model.UnpackedFloat

/-! ## The parts among the bits -/

theorem bias_eq : (Format.binary64.exponentBias : Int) + (52 : Nat) = 1075 := rfl

theorem toNat_unpackMantissa (b : BitVec 64) :
    (@unpackMantissa .binary64 b).toNat = b.toNat % Binary.hiddenBit := by
  simp [unpackMantissa, BitVec.extractLsb, Binary.hiddenBit]

theorem toNat_unpackExponent (b : BitVec 64) :
    (@unpackExponent .binary64 b).toNat = b.toNat / Binary.hiddenBit % 0x800 := by
  simp [unpackExponent, BitVec.extractLsb, Nat.shiftRight_eq_div_pow, Binary.hiddenBit]

theorem toNat_unpackSign (b : BitVec 64) :
    (@unpackSign .binary64 b).toNat = b.toNat / Binary.signBit % 2 := by
  simp [unpackSign, BitVec.extractLsb, Nat.shiftRight_eq_div_pow, Binary.signBit]

theorem toNat_hidden_bit_append (m : BitVec 52) :
    (1#1 ++ m).toNat = m.toNat + Binary.hiddenBit := by
  rw [BitVec.toNat_append, ← Nat.shiftLeft_add_eq_or_of_lt m.isLt, Nat.add_comm]
  rfl

theorem sign_of_bits (b : BitVec 64) :
    (Sign.ofBitVec (@unpackSign .binary64 b) == .negative)
      = decide (Binary.signBit ≤ b.toNat) := by
  have bound : b.toNat < 2 ^ 64 := b.isLt
  have positive : @unpackSign .binary64 b = 0#1 ↔ ¬ Binary.signBit ≤ b.toNat := by
    rw [← BitVec.toNat_inj, toNat_unpackSign, BitVec.toNat_ofNat, Binary.signBit]
    omega
  by_cases large : Binary.signBit ≤ b.toNat
  · rw [Sign.ofBitVec, if_neg (by simpa [positive] using large), decide_eq_true large]
    rfl
  · rw [Sign.ofBitVec, if_pos (positive.2 large), decide_eq_false large]
    rfl

/-- The parts as `Binary` has them; a zero has the smallest exponent. -/
def Binary.ofUnpacked : UnpackedFloat → Binary
  | .notANumber => .nan
  | .infinity sign => .infinite (sign == .negative)
  | .zero sign => .finite (sign == .negative) 0 (-1074)
  | .finite sign mantissa exponent _ => .finite (sign == .negative) mantissa exponent

/-- **The parts that are read off the bits are those that the operations compute with.** -/
theorem Binary.ofFloat_eq (x : Float) : ofFloat x = ofUnpacked x.toModel.unpack := by
  have bits : x.toBits.toNat = x.toModel.toBits.toBitVec.toNat := rfl
  rw [ofFloat, Float.Model.unpack, UnpackedFloat.unpack, bits]
  generalize x.toModel.toBits.toBitVec = b
  have ones : @unpackExponent .binary64 b = -1#11 ↔
      b.toNat / hiddenBit % 0x800 = 2047 := by
    rw [← BitVec.toNat_inj, toNat_unpackExponent]
    rfl
  have none : @unpackExponent .binary64 b = 0#11 ↔
      b.toNat / hiddenBit % 0x800 = 0 := by
    rw [← BitVec.toNat_inj, toNat_unpackExponent]
    rfl
  have empty : @unpackMantissa .binary64 b = 0#52 ↔ b.toNat % hiddenBit = 0 := by
    rw [← BitVec.toNat_inj, toNat_unpackMantissa]
    rfl
  simp only [ones, none, empty]
  split
  · split <;> simp only [ofUnpacked, sign_of_bits]
  · split
    · rename_i smallest
      split
      · rename_i zero
        simp only [ofUnpacked, sign_of_bits, zero]
      · simp only [ofUnpacked, sign_of_bits, toNat_unpackMantissa, toNat_unpackExponent, smallest,
          bias_eq]
        rfl
    · simp only [ofUnpacked, sign_of_bits, toNat_hidden_bit_append, toNat_unpackMantissa,
        toNat_unpackExponent, bias_eq]

/-! ## Through the bits and back -/

/-- The parts that a float can have. -/
def Canonical : UnpackedFloat → Prop
  | .finite _ mantissa exponent _ =>
      mantissa < 2 ^ 53 ∧ -1074 ≤ exponent ∧ exponent ≤ 971 ∧
        (2 ^ 52 ≤ mantissa ∨ exponent = -1074)
  | _ => True

/-- **Every float has such parts.** -/
theorem canonical_unpack (v : Float.Model) : Canonical v.unpack := by
  rw [Float.Model.unpack, UnpackedFloat.unpack]
  generalize v.toBits.toBitVec = b
  have ones : (-1#11).toNat = 2047 := rfl
  have mantissa : (@unpackMantissa .binary64 b).toNat < 2 ^ 52 := BitVec.isLt _
  have exponent : (@unpackExponent .binary64 b).toNat < 2 ^ 11 := BitVec.isLt _
  dsimp only
  split
  · split <;> trivial
  · rename_i largest
    rw [← BitVec.toNat_inj, ones] at largest
    split
    · rename_i smallest
      split
      · trivial
      · rw [← BitVec.toNat_inj] at smallest
        simp only [Canonical, bias_eq, smallest]
        refine ⟨by omega, by decide, by decide, .inr rfl⟩
    · rename_i normal
      rw [← BitVec.toNat_inj] at normal
      have nonzero : (@unpackExponent .binary64 b).toNat ≠ 0 := normal
      simp only [Canonical, toNat_hidden_bit_append, Binary.hiddenBit, bias_eq]
      omega

/-- **What has the parts of a float is the float it is packed into.** -/
theorem unpack_pack {u : UnpackedFloat} (canonical : Canonical u) :
    (Float.Model.pack u).unpack = u := by
  change UnpackedFloat.unpack .binary64 (UnpackedFloat.pack .binary64 u) = u
  cases u with
  | notANumber => rfl
  | infinity sign => cases sign <;> rfl
  | zero sign => cases sign <;> rfl
  | finite sign m e positive =>
      obtain ⟨small, least, most, normal⟩ := canonical
      have nonzero : m ≠ 0 := Nat.ne_of_gt positive
      have bias := bias_eq
      rw [UnpackedFloat.pack]
      dsimp only
      rw [if_neg (show ¬ 2 ^ 11 ≤ (e + Format.binary64.exponentBias + (52 : Nat)).toNat + 1 by
        omega)]
      by_cases full : 2 ^ 52 ≤ m
      · have log : m.log2 = 52 := (Nat.log2_eq_iff nonzero).2 ⟨full, small⟩
        have exponent : (BitVec.ofNat 11
            (e + Format.binary64.exponentBias + (52 : Nat)).toNat).toNat = (e + 1075).toNat := by
          rw [Int.add_assoc, bias_eq, BitVec.toNat_ofNat]
          exact Nat.mod_eq_of_lt (by omega)
        have mantissa : (1#1 ++ BitVec.ofNat 52 m).toNat = m := by
          rw [toNat_hidden_bit_append, BitVec.toNat_ofNat, Binary.hiddenBit]
          omega
        have no_ones : ¬ (e + 1075).toNat = (-1#11).toNat := by
          change ¬ _ = 2047
          omega
        have no_zeros : ¬ (e + 1075).toNat = (0#11).toNat := by
          change ¬ _ = 0
          omega
        rw [if_pos (by rw [log]; rfl), UnpackedFloat.unpack]
        simp only [unpackSign_packComponents, unpackMantissa_packComponents,
          unpackExponent_packComponents, Sign.ofBitVec_toBitVec, ← BitVec.toNat_inj, exponent]
        rw [if_neg no_ones, if_neg no_zeros, finite.injEq]
        exact ⟨rfl, mantissa, by omega⟩
      · have nonzero' : ¬ m = (0#52).toNat := nonzero
        have log : m.log2 < 52 := (Nat.log2_lt nonzero).2 (Nat.lt_of_not_le full)
        have mantissa : (BitVec.ofNat 52 m).toNat = m := by
          rw [BitVec.toNat_ofNat]
          exact Nat.mod_eq_of_lt (Nat.lt_of_not_le full)
        have smallest : e = -1074 := normal.resolve_left full
        rw [if_neg (fun h => by change m.log2 + 1 = 53 at h; omega), UnpackedFloat.unpack]
        simp only [unpackSign_packComponents, unpackMantissa_packComponents,
          unpackExponent_packComponents, Sign.ofBitVec_toBitVec, ← BitVec.toNat_inj, mantissa]
        rw [if_neg (by decide), if_pos trivial, dif_neg nonzero', finite.injEq, smallest]
        exact ⟨rfl, rfl, rfl⟩

end ChatTemplate.Decimal
