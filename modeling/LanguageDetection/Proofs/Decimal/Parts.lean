import LanguageDetection.Decimal.Shortest
import LanguageDetection.Proofs.Double

/-!
Doubles taken apart by their bits: the significand and the exponent are those of the number.
-/

namespace LanguageDetection.Decimal

open Float.Model
open Float.Model.UnpackedFloat

section Bits

variable (bits : UInt64)

theorem toNat_fraction : (bits &&& 0xFFFFFFFFFFFFF).toNat =
    (@unpackMantissa Format.binary64 bits.toBitVec).toNat := by
  have left : (bits &&& 0xFFFFFFFFFFFFF).toNat = bits.toNat % 2 ^ 52 := by
    rw [UInt64.toNat_and]
    exact Nat.and_two_pow_sub_one_eq_mod bits.toNat 52
  rw [left]
  simp [unpackMantissa, BitVec.extractLsb]

theorem toNat_biased : ((bits >>> 52) &&& 0x7FF).toNat =
    (@unpackExponent Format.binary64 bits.toBitVec).toNat := by
  have left : ((bits >>> 52) &&& 0x7FF).toNat = bits.toNat / 2 ^ 52 % 2 ^ 11 := by
    rw [UInt64.toNat_and, UInt64.toNat_shiftRight, ← Nat.shiftRight_eq_div_pow]
    exact Nat.and_two_pow_sub_one_eq_mod _ 11
  rw [left]
  simp [unpackExponent, BitVec.extractLsb, Nat.shiftRight_eq_div_pow]

theorem toNat_sign : (bits >>> 63).toNat =
    (@unpackSign Format.binary64 bits.toBitVec).toNat := by
  have left : (bits >>> 63).toNat = bits.toNat / 2 ^ 63 := by
    rw [UInt64.toNat_shiftRight, ← Nat.shiftRight_eq_div_pow]
    rfl
  have bound := bits.toNat_lt
  have right : (@unpackSign Format.binary64 bits.toBitVec).toNat =
      bits.toNat / 2 ^ 63 % 2 := by
    simp [unpackSign, BitVec.extractLsb, Nat.shiftRight_eq_div_pow]
  omega

theorem toNat_leading (mantissa : BitVec 52) :
    (1#1 ++ mantissa).toNat = mantissa.toNat + Nat.pow 2 52 := by
  rw [BitVec.toNat_append, ← Nat.shiftLeft_add_eq_or_of_lt mantissa.isLt, Nat.add_comm]
  rfl

end Bits

theorem not_isNegative_of_sign {bits : UInt64}
    (positive : Sign.ofBitVec (@unpackSign Format.binary64 bits.toBitVec) = .positive) :
    (bits >>> 63 == 1) = false := by
  have zero (sign : BitVec 1) (positive : Sign.ofBitVec sign = .positive) : sign.toNat = 0 := by
    rcases BitVec.eq_zero_or_eq_one sign with rfl | rfl
    · rfl
    · contradiction
  have cleared := toNat_sign bits
  rw [zero _ positive] at cleared
  rw [beq_eq_false_iff_ne]
  intro one
  rw [one] at cleared
  contradiction

theorem ofBits_of_normal {bits : UInt64} (positive : (bits >>> 63 == 1) = false)
    (notLast : (bits >>> 52 &&& 0x7FF).toNat ≠ 0x7FF)
    (notFirst : (bits >>> 52 &&& 0x7FF).toNat ≠ 0) :
    Parts.ofBits bits = .finite false ((bits &&& 0xFFFFFFFFFFFFF).toNat + Nat.pow 2 52)
      ((bits >>> 52 &&& 0x7FF).toNat - 1075) := by
  rw [Parts.ofBits, positive, beq_false_of_ne notLast, beq_false_of_ne notFirst]
  rfl

theorem ofBits_of_parts? {x : Float} {m : ℕ} {e : ℤ} (parts : Double.parts? x = some (m, e)) :
    Parts.ofBits x.toBits = .finite false m e := by
  obtain ⟨positive, unpacked⟩ := Double.unpack_of_parts? parts
  have biased := toNat_biased x.toBits
  have fraction := toNat_fraction x.toBits
  change UnpackedFloat.unpack Format.binary64 x.toBits.toBitVec = _ at unpacked
  unfold UnpackedFloat.unpack at unpacked
  simp only at unpacked
  split at unpacked
  · split at unpacked <;> contradiction
  · rename_i finite
    have notLast : (x.toBits >>> 52 &&& 0x7FF).toNat ≠ 0x7FF := by
      intro last
      exact finite (BitVec.eq_of_toNat_eq (biased.symm.trans last))
    split at unpacked
    · rename_i subnormal
      split at unpacked
      · contradiction
      · injection unpacked with sign mantissa exponent
        rw [subnormal] at biased exponent
        rw [Parts.ofBits, not_isNegative_of_sign sign, fraction, mantissa, biased, ← exponent]
        rfl
    · rename_i normal
      have notFirst : (x.toBits >>> 52 &&& 0x7FF).toNat ≠ 0 := by
        intro first
        exact normal (BitVec.eq_of_toNat_eq (biased.symm.trans first))
      injection unpacked with sign mantissa exponent
      rw [ofBits_of_normal (not_isNegative_of_sign sign) notLast notFirst, fraction,
        ← toNat_leading, mantissa, biased, ← exponent]
      rfl

end LanguageDetection.Decimal
