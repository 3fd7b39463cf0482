import Mathlib

/-!
Doubles, as far as quotients of whole numbers of 32 bits need them: such numbers are exact, the
quotient of a smaller by a greater one is positive and at most one, and that of two equal ones is
one.
-/

namespace LanguageDetection.Double

open Float.Model
open Float.Model.UnpackedFloat

/-- A significand of full length. -/
structure IsNormal (m : Nat) (e : Int) : Prop where
  low : 2 ^ 52 ≤ m
  high : m < 2 ^ 53
  exponent_ge : -1074 ≤ e
  exponent_le : e ≤ 971

theorem IsNormal.pos {m : Nat} {e : Int} (normal : IsNormal m e) : 0 < m := by
  have := normal.low
  omega

theorem log2_eq {m k : Nat} (low : 2 ^ k ≤ m) (high : m < 2 ^ (k + 1)) : m.log2 = k := by
  have positive : m ≠ 0 := by
    have := Nat.two_pow_pos k
    omega
  exact (Nat.log2_eq_iff positive).mpr ⟨low, high⟩

theorem targetExponent_of_log2 {m k : Nat} {e : Int} (log : m.log2 = k)
    (exponent_ge : -1074 ≤ k - 52 + e) :
    Format.binary64.targetExponent (totalExponent m e) = k - 52 + e := by
  simp only [Format.targetExponent, totalExponent, log, Format.mantissaBits, Format.minExponent]
  omega

theorem shiftToTargetExponent_of_log2 {m k : Nat} {e : Int} (log : m.log2 = 52 + k)
    (exponent_ge : -1074 ≤ e) (accuracy : Accuracy) :
    shiftToTargetExponent Format.binary64 m e accuracy =
      (ExtendedMantissa.ofMantissaAndAccuracy m accuracy >>> k, e + k) := by
  have target : Format.binary64.targetExponent (totalExponent m e) = ((52 + k : Nat) : Int) - 52 + e :=
    targetExponent_of_log2 log (by omega)
  have amount : (((52 + k : Nat) : Int) - 52 + e - e).toNat = k := by omega
  rw [shiftToTargetExponent, target, shiftToExponent, amount]

theorem mantissa_ofMantissaAndAccuracy (m : Nat) (accuracy : Accuracy) :
    (ExtendedMantissa.ofMantissaAndAccuracy m accuracy).mantissa = m := by
  cases accuracy with
  | exact => rfl
  | inexact order => cases order <;> rfl

theorem roundedMantissa_mem (em : ExtendedMantissa) :
    em.mantissa ≤ em.roundedMantissa ∧ em.roundedMantissa ≤ em.mantissa + 1 := by
  rw [ExtendedMantissa.roundedMantissa]
  cases em.accuracy with
  | exact => simp [Accuracy.roundToNearestEven]
  | inexact order =>
      cases order with
      | lt => simp [Accuracy.roundToNearestEven]
      | eq =>
          simp only [Accuracy.roundToNearestEven]
          omega
      | gt => simp [Accuracy.roundToNearestEven]

/-- What is left of a rounded significand once it fits again. -/
theorem roundWithAccuracy_of_shift {q : Nat} {e e' : Int} {accuracy : Accuracy}
    {em : ExtendedMantissa} (shifted : shiftToTargetExponent Format.binary64 q e accuracy = (em, e'))
    (low : 2 ^ 52 ≤ em.mantissa) (high : em.mantissa < 2 ^ 53) (exponent_ge : -1074 ≤ e') :
    ∃ final exponent positive,
      roundWithAccuracy Format.binary64 .positive q e accuracy =
        .finite .positive final exponent positive ∧
      2 ^ 52 ≤ final ∧ final < 2 ^ 53 ∧
      (exponent = e' ∧ final = em.roundedMantissa ∨
        exponent = e' + 1 ∧ final = 2 ^ 52 ∧ em.roundedMantissa = 2 ^ 53) := by
  obtain ⟨ge, le⟩ := roundedMantissa_mem em
  -- Rounding up may make the significand one bit too long, and then it is halved exactly.
  by_cases carry : em.roundedMantissa = 2 ^ 53
  · have log : (2 ^ 53 : Nat).log2 = 52 + 1 := log2_eq (Nat.le_refl _) (by decide)
    have again := shiftToTargetExponent_of_log2 log exponent_ge .exact
    have halved : (ExtendedMantissa.ofMantissaAndAccuracy (2 ^ 53) .exact >>> 1).mantissa =
        2 ^ 52 := by decide
    refine ⟨2 ^ 52, e' + 1, by decide, ?_, Nat.le_refl _, by decide,
      Or.inr ⟨rfl, rfl, carry⟩⟩
    unfold roundWithAccuracy
    simp only [shifted, carry, again, halved]
    rfl
  · have log : em.roundedMantissa.log2 = 52 + 0 := log2_eq (by omega) (by omega)
    have again := shiftToTargetExponent_of_log2 log exponent_ge .exact
    have positive : em.roundedMantissa ≠ 0 := by omega
    have same : (ExtendedMantissa.ofMantissaAndAccuracy em.roundedMantissa .exact >>> 0).mantissa =
        em.roundedMantissa := rfl
    refine ⟨em.roundedMantissa, e', Nat.pos_of_ne_zero positive, ?_, by omega, by omega,
      Or.inl ⟨rfl, rfl⟩⟩
    unfold roundWithAccuracy
    simp only [shifted, again, same, positive, dite_false]
    simp

theorem roundWithAccuracy_exact {m : Nat} {e : Int} (normal : IsNormal m e) :
    roundWithAccuracy Format.binary64 .positive m e .exact =
      .finite .positive m e normal.pos := by
  have log : m.log2 = 52 + 0 := log2_eq normal.low normal.high
  have shifted := shiftToTargetExponent_of_log2 log normal.exponent_ge .exact
  obtain ⟨final, exponent, positive, rounded, -, high, kept | carried⟩ :=
    roundWithAccuracy_of_shift shifted normal.low normal.high (by have := normal.exponent_ge; omega)
  · obtain ⟨rfl, rfl⟩ := kept
    rw [rounded]
    congr
    exact Int.add_zero e
  · have unrounded : (ExtendedMantissa.ofMantissaAndAccuracy m .exact >>> 0).roundedMantissa = m :=
      rfl
    have := normal.high
    omega

theorem roundWithAccuracy_of_lt {q : Nat} {e : Int} (low : 2 ^ 52 ≤ q) (high : q < 2 ^ 54)
    (exponent_ge : -1074 ≤ e) (accuracy : Accuracy) :
    ∃ final exponent positive,
      roundWithAccuracy Format.binary64 .positive q e accuracy =
        .finite .positive final exponent positive ∧
      2 ^ 52 ≤ final ∧ final < 2 ^ 53 ∧ e ≤ exponent ∧
      (exponent ≤ e ∨ exponent = e + 1 ∧ (2 ^ 53 ≤ q ∨ final = 2 ^ 52) ∨
        exponent = e + 2 ∧ 2 ^ 53 ≤ q ∧ final = 2 ^ 52) := by
  by_cases fits : q < 2 ^ 53
  · have log : q.log2 = 52 + 0 := log2_eq low fits
    have shifted := shiftToTargetExponent_of_log2 log exponent_ge accuracy
    have mantissa : (ExtendedMantissa.ofMantissaAndAccuracy q accuracy >>> 0).mantissa = q :=
      mantissa_ofMantissaAndAccuracy q accuracy
    obtain ⟨final, exponent, positive, rounded, finalLow, finalHigh, kept⟩ :=
      roundWithAccuracy_of_shift shifted (by rwa [mantissa]) (by rwa [mantissa]) (by omega)
    exact ⟨final, exponent, positive, rounded, finalLow, finalHigh, by omega, by omega⟩
  · have log : q.log2 = 52 + 1 := log2_eq (Nat.not_lt.mp fits) high
    have shifted := shiftToTargetExponent_of_log2 log exponent_ge accuracy
    have mantissa : (ExtendedMantissa.ofMantissaAndAccuracy q accuracy >>> 1).mantissa = q / 2 :=
      congrArg (· / 2) (mantissa_ofMantissaAndAccuracy q accuracy)
    obtain ⟨final, exponent, positive, rounded, finalLow, finalHigh, kept⟩ :=
      roundWithAccuracy_of_shift shifted (by omega) (by omega) (by omega)
    exact ⟨final, exponent, positive, rounded, finalLow, finalHigh, by omega, by omega⟩

theorem unpackSign_packComponents (sign : Sign) (exponent : BitVec 11) (mantissa : BitVec 52) :
    unpackSign (packComponents Format.binary64 sign exponent mantissa) = sign.toBitVec := by
  change (sign.toBitVec ++ exponent ++ mantissa).extractLsb' 63 1 = sign.toBitVec
  rw [BitVec.extractLsb'_append_eq_of_le (by decide),
    BitVec.extractLsb'_append_eq_of_le (by decide)]
  cases sign <;> rfl

theorem toNat_append_ofNat {m : Nat} (low : 2 ^ 52 ≤ m) (high : m < 2 ^ 53) :
    (1#1 ++ BitVec.ofNat 52 m).toNat = m := by
  rw [BitVec.toNat_append, ← Nat.shiftLeft_add_eq_or_of_lt (BitVec.isLt _), BitVec.toNat_ofNat,
    BitVec.toNat_ofNat]
  change 2 ^ 52 + m % 2 ^ 52 = m
  omega

theorem unpack_pack {m : Nat} {e : Int} (normal : IsNormal m e) :
    unpack Format.binary64 (pack Format.binary64 (.finite .positive m e normal.pos)) =
      .finite .positive m e normal.pos := by
  obtain ⟨low, high, exponent_ge, exponent_le⟩ := normal
  have log : m.log2 + 1 = Format.binary64.mantissaBits := by
    rw [log2_eq low high]
    rfl
  have bias : e + Format.binary64.exponentBias + Format.binary64.mantissaBitsWithoutImplicit =
      e + 1075 := by
    change e + 1023 + 52 = e + 1075
    omega
  have fits : ¬ 2 ^ Format.binary64.exponentBits ≤ (e + 1075).toNat + 1 := by
    change ¬ 2048 ≤ (e + 1075).toNat + 1
    omega
  have exponent : (BitVec.ofNat 11 (e + 1075).toNat).toNat = (e + 1075).toNat := by
    rw [BitVec.toNat_ofNat]
    exact Nat.mod_eq_of_lt (by omega)
  have notInfinite : BitVec.ofNat 11 (e + 1075).toNat ≠ -1#_ := by
    intro equal
    rw [equal] at exponent
    change 2047 = (e + 1075).toNat at exponent
    omega
  have notSubnormal : BitVec.ofNat 11 (e + 1075).toNat ≠ 0#_ := by
    intro equal
    rw [equal] at exponent
    change 0 = (e + 1075).toNat at exponent
    omega
  have unbiased : ((e + 1075).toNat : Int) -
      (Format.binary64.exponentBias + Format.binary64.mantissaBitsWithoutImplicit) = e := by
    change ((e + 1075).toNat : Int) - (1023 + 52) = e
    omega
  have packed : pack Format.binary64 (.finite .positive m e (by omega)) =
      packComponents Format.binary64 .positive (BitVec.ofNat 11 (e + 1075).toNat)
        (BitVec.ofNat 52 m) := by
    simp only [UnpackedFloat.pack, bias, fits, log, if_true, if_false]
  rw [packed, UnpackedFloat.unpack]
  simp only [unpackMantissa_packComponents, unpackExponent_packComponents,
    unpackSign_packComponents, notInfinite, notSubnormal, exponent, unbiased, if_false]
  congr 1
  exact toNat_append_ofNat low high

/-- The significand and the exponent of a positive double. -/
def parts? (x : Float) : Option (Nat × Int) :=
  match x.toModel.unpack with
  | .finite .positive m e _ => some (m, e)
  | _ => none

theorem unpack_of_parts? {x : Float} {m : Nat} {e : Int} (parts : parts? x = some (m, e)) :
    ∃ positive, x.toModel.unpack = .finite .positive m e positive := by
  unfold parts? at parts
  split at parts
  · rename_i positive unpacked
    cases parts
    exact ⟨positive, unpacked⟩
  · contradiction

theorem parts?_ofModel_pack {m : Nat} {e : Int} (normal : IsNormal m e) :
    parts? (.ofModel (.pack (.finite .positive m e normal.pos))) = some (m, e) := by
  have unpacked : (Float.Model.pack (.finite .positive m e normal.pos)).unpack =
      .finite .positive m e normal.pos := unpack_pack normal
  rw [parts?, unpacked]

theorem lt_iff_compare (x y : Float) :
    x < y ↔ x.toModel.unpack.compare y.toModel.unpack = some .lt := by
  change decide ((x.toModel.unpack.compare y.toModel.unpack == some .lt) = true) = true ↔ _
  rw [decide_eq_true_iff, beq_iff_eq]

theorem le_iff_compare (x y : Float) :
    x ≤ y ↔ (x.toModel.unpack.compare y.toModel.unpack).any (·.isLE) = true := by
  change decide ((x.toModel.unpack.compare y.toModel.unpack).any (·.isLE) = true) = true ↔ _
  rw [decide_eq_true_iff]

section Order

variable {x y : Float} {m m' : Nat} {e e' : Int}

theorem lt_iff (partsX : parts? x = some (m, e)) (partsY : parts? y = some (m', e')) :
    x < y ↔ e < e' ∨ e = e' ∧ m < m' := by
  obtain ⟨_, unpackedX⟩ := unpack_of_parts? partsX
  obtain ⟨_, unpackedY⟩ := unpack_of_parts? partsY
  rw [lt_iff_compare, unpackedX, unpackedY]
  simp only [UnpackedFloat.compare, Option.some.injEq, Ordering.then_eq_lt, compare_lt_iff_lt,
    compare_eq_iff_eq]

theorem le_iff (partsX : parts? x = some (m, e)) (partsY : parts? y = some (m', e')) :
    x ≤ y ↔ e < e' ∨ e = e' ∧ m ≤ m' := by
  obtain ⟨_, unpackedX⟩ := unpack_of_parts? partsX
  obtain ⟨_, unpackedY⟩ := unpack_of_parts? partsY
  rw [le_iff_compare, unpackedX, unpackedY]
  simp only [UnpackedFloat.compare, Option.any_some]
  rw [Ordering.isLE_then_iff_or, compare_lt_iff_lt, compare_eq_iff_eq, Ordering.isLE_iff_ne_gt,
    ← ne_eq, compare_le_iff_le]

theorem le_of_not_lt (partsX : parts? x = some (m, e)) (partsY : parts? y = some (m', e'))
    (notLess : ¬ x < y) : y ≤ x := by
  rw [lt_iff partsX partsY] at notLess
  rw [le_iff partsY partsX]
  omega

theorem not_lt_of_le (partsX : parts? x = some (m, e)) (partsY : parts? y = some (m', e'))
    (le : x ≤ y) : ¬ y < x := by
  rw [le_iff partsX partsY] at le
  rw [lt_iff partsY partsX]
  omega

theorem zero_lt (partsX : parts? x = some (m, e)) : 0.0 < x := by
  obtain ⟨_, unpacked⟩ := unpack_of_parts? partsX
  have zero : (0.0 : Float).toModel.unpack = .zero .positive := by rfl
  rw [lt_iff_compare, unpacked, zero]
  rfl

theorem not_lt_zero (partsX : parts? x = some (m, e)) : ¬ x < 0.0 := by
  obtain ⟨_, unpacked⟩ := unpack_of_parts? partsX
  have zero : (0.0 : Float).toModel.unpack = .zero .positive := by rfl
  rw [lt_iff_compare, unpacked, zero]
  simp [UnpackedFloat.compare]

end Order

section Whole

variable {n : UInt32}

/-- The significand of a whole number, which is exact. -/
def significand (n : UInt32) : Nat :=
  n.toNat <<< (52 - n.toNat.log2)

theorem log2_lt (n : UInt32) : n.toNat.log2 < 32 := by
  by_cases zero : n.toNat = 0
  · rw [zero]
    decide
  · exact (Nat.log2_lt zero).mpr n.toNat_lt

theorem isNormal_significand (nonzero : n ≠ 0) :
    IsNormal (significand n) ((n.toNat.log2 : Int) - 52) := by
  have positive : n.toNat ≠ 0 := fun zero => nonzero (UInt32.toNat_inj.mp zero)
  have small := log2_lt n
  have low := Nat.mul_le_mul_right (2 ^ (52 - n.toNat.log2)) (Nat.log2_self_le positive)
  have high := Nat.mul_lt_mul_of_pos_right (Nat.lt_log2_self (n := n.toNat))
    (Nat.two_pow_pos (52 - n.toNat.log2))
  rw [← Nat.pow_add] at low high
  have sum : n.toNat.log2 + (52 - n.toNat.log2) = 52 := by omega
  have sum' : n.toNat.log2 + 1 + (52 - n.toNat.log2) = 53 := by omega
  rw [sum] at low
  rw [sum'] at high
  constructor
  · rwa [significand, Nat.shiftLeft_eq]
  · rwa [significand, Nat.shiftLeft_eq]
  · omega
  · omega

theorem toFloat_eq (nonzero : n ≠ 0) :
    n.toFloat = .ofModel (.pack (.finite .positive (significand n) ((n.toNat.log2 : Int) - 52)
      (isNormal_significand nonzero).pos)) := by
  have positive : n.toNat ≠ 0 := fun zero => nonzero (UInt32.toNat_inj.mp zero)
  have small := log2_lt n
  have target : Format.binary64.targetExponent (totalExponent n.toNat 0) =
      (n.toNat.log2 : Int) - 52 := by
    rw [targetExponent_of_log2 rfl (by omega)]
    omega
  have amount : ((0 : Int) - ((n.toNat.log2 : Int) - 52)).toNat = 52 - n.toNat.log2 := by omega
  have exponent : (0 : Int) - ((52 - n.toNat.log2 : Nat) : Int) = (n.toNat.log2 : Int) - 52 := by
    omega
  have decreased : decreaseExponent n.toNat 0 ((n.toNat.log2 : Int) - 52) =
      (significand n, (n.toNat.log2 : Int) - 52) := by
    rw [decreaseExponent, amount, exponent]
    rfl
  have rounded : UnpackedFloat.round Format.binary64 .positive n.toNat 0 =
      .finite .positive (significand n) ((n.toNat.log2 : Int) - 52)
        (isNormal_significand nonzero).pos := by
    rw [UnpackedFloat.round, target, decreased]
    exact roundWithAccuracy_exact (isNormal_significand nonzero)
  have normalized : UnpackedFloat.ofUInt32 Format.binary64 n =
      UnpackedFloat.round Format.binary64 .positive n.toNat 0 := by
    have greater : compare (n.toNat : Int) 0 = .gt := compare_gt_iff_gt.mpr (by omega)
    rw [UnpackedFloat.ofUInt32, UnpackedFloat.ofNat, UnpackedFloat.ofInt,
      UnpackedFloat.normalize, greater]
    rfl
  rw [← rounded, ← normalized]
  rfl

theorem parts?_toFloat (nonzero : n ≠ 0) :
    parts? n.toFloat = some (significand n, (n.toNat.log2 : Int) - 52) := by
  rw [toFloat_eq nonzero]
  exact parts?_ofModel_pack (isNormal_significand nonzero)

end Whole

section Quotient

variable {a b : UInt32}

def quotient (a b : UInt32) : Nat :=
  significand a <<< 53 / significand b

theorem divCore_eq (a b : UInt32) (positiveA : a ≠ 0) (positiveB : b ≠ 0) :
    divCore Format.binary64 (significand a) ((a.toNat.log2 : Int) - 52) (significand b)
        ((b.toNat.log2 : Int) - 52) =
      (quotient a b, (a.toNat.log2 : Int) - b.toNat.log2 - 53,
        accuracyOfFraction (significand a <<< 53 % significand b) (significand b)) := by
  have smallA := log2_lt a
  have smallB := log2_lt b
  have logA := log2_eq (isNormal_significand positiveA).low (isNormal_significand positiveA).high
  have logB := log2_eq (isNormal_significand positiveB).low (isNormal_significand positiveB).high
  have target : min ((a.toNat.log2 : Int) - 52 - ((b.toNat.log2 : Int) - 52))
      (Format.binary64.targetExponent (totalExponent (significand a) ((a.toNat.log2 : Int) - 52) -
        totalExponent (significand b) ((b.toNat.log2 : Int) - 52))) =
      (a.toNat.log2 : Int) - b.toNat.log2 - 53 := by
    simp only [Format.targetExponent, totalExponent, logA, logB, Format.mantissaBits,
      Format.minExponent]
    omega
  have amount : ((a.toNat.log2 : Int) - 52 - ((b.toNat.log2 : Int) - 52) -
      ((a.toNat.log2 : Int) - b.toNat.log2 - 53)).toNat = 53 := by omega
  simp only [divCore, target, amount]
  rfl

theorem toFloat_div_toFloat (positiveA : a ≠ 0) (positiveB : b ≠ 0) :
    a.toFloat / b.toFloat = .ofModel (.pack (roundWithAccuracy Format.binary64 .positive
      (quotient a b) ((a.toNat.log2 : Int) - b.toNat.log2 - 53)
      (accuracyOfFraction (significand a <<< 53 % significand b) (significand b)))) := by
  obtain ⟨_, unpackedA⟩ := unpack_of_parts? (parts?_toFloat positiveA)
  obtain ⟨_, unpackedB⟩ := unpack_of_parts? (parts?_toFloat positiveB)
  change Float.ofModel (.pack (UnpackedFloat.div Format.binary64 a.toFloat.toModel.unpack
    b.toFloat.toModel.unpack)) = _
  rw [unpackedA, unpackedB, UnpackedFloat.div, divCore_eq a b positiveA positiveB]
  rfl

theorem toFloat_div_self (positive : a ≠ 0) : a.toFloat / a.toFloat = 1.0 := by
  have significandPos := (isNormal_significand positive).pos
  have whole : quotient a a = 2 ^ 53 := by
    rw [quotient, Nat.shiftLeft_eq, Nat.mul_div_cancel_left _ significandPos]
  have remainder : significand a <<< 53 % significand a = 0 := by
    rw [Nat.shiftLeft_eq, Nat.mul_mod_right]
  have noRest : accuracyOfFraction 0 (significand a) = .exact := if_pos rfl
  have exponent : (a.toNat.log2 : Int) - a.toNat.log2 - 53 = -53 := by omega
  rw [toFloat_div_toFloat positive positive, whole, remainder, noRest, exponent]
  decide +kernel

theorem quotient_bounds (positiveA : a ≠ 0) (positiveB : b ≠ 0) :
    2 ^ 52 ≤ quotient a b ∧ quotient a b < 2 ^ 54 := by
  obtain ⟨lowA, highA, -, -⟩ := isNormal_significand positiveA
  obtain ⟨lowB, highB, -, -⟩ := isNormal_significand positiveB
  rw [quotient, Nat.shiftLeft_eq, Nat.le_div_iff_mul_le (by omega), Nat.div_lt_iff_lt_mul (by omega)]
  omega

theorem quotient_lt (positiveB : b ≠ 0) (less : significand a < significand b) :
    quotient a b < 2 ^ 53 := by
  obtain ⟨lowB, -, -, -⟩ := isNormal_significand positiveB
  rw [quotient, Nat.shiftLeft_eq, Nat.div_lt_iff_lt_mul (by omega)]
  omega

theorem significand_lt (less : a < b) (sameLog : a.toNat.log2 = b.toNat.log2) :
    significand a < significand b := by
  rw [significand, significand, sameLog, Nat.shiftLeft_eq, Nat.shiftLeft_eq]
  exact Nat.mul_lt_mul_of_pos_right (UInt32.lt_iff_toNat_lt.mp less) (Nat.two_pow_pos _)

/-- The quotient of a smaller by a greater number is at most one after rounding. -/
theorem exists_parts?_div_of_lt (positiveA : a ≠ 0) (less : a < b) :
    ∃ m e, parts? (a.toFloat / b.toFloat) = some (m, e) ∧ (e < -52 ∨ e = -52 ∧ m ≤ 2 ^ 52) := by
  have less' : a.toNat < b.toNat := UInt32.lt_iff_toNat_lt.mp less
  have positiveB : b ≠ 0 := by
    rintro rfl
    exact absurd less' (Nat.not_lt_zero _)
  have smallA := log2_lt a
  have smallB := log2_lt b
  obtain ⟨low, high⟩ := quotient_bounds positiveA positiveB
  obtain ⟨final, exponent, positive, rounded, finalLow, finalHigh, exponent_ge, exponent_le⟩ :=
    roundWithAccuracy_of_lt low high
      (show -1074 ≤ (a.toNat.log2 : Int) - b.toNat.log2 - 53 by omega)
      (accuracyOfFraction (significand a <<< 53 % significand b) (significand b))
  have logs : a.toNat.log2 ≤ b.toNat.log2 := by
    have nonzero : b.toNat ≠ 0 := by omega
    refine (Nat.le_log2 nonzero).mpr ((Nat.log2_self_le ?_).trans less'.le)
    exact fun zero => positiveA (UInt32.toNat_inj.mp zero)
  refine ⟨final, exponent, ?_, ?_⟩
  · rw [toFloat_div_toFloat positiveA positiveB, rounded]
    exact parts?_ofModel_pack ⟨finalLow, finalHigh, by omega, by omega⟩
  -- Below a longer number the exponent is small enough. Below one of the same length no bit is to
  -- spare, so that rounding gives one at most.
  · rcases Nat.lt_or_eq_of_le logs with shorter | sameLog
    · omega
    · have fits := quotient_lt positiveB (significand_lt less sameLog)
      omega

theorem parts?_one : parts? 1.0 = some (2 ^ 52, -52) := by decide +kernel

theorem exists_parts?_div (positive : a ≠ 0) (le : a ≤ b) :
    ∃ m e, parts? (a.toFloat / b.toFloat) = some (m, e) ∧ a.toFloat / b.toFloat ≤ 1.0 := by
  by_cases same : a = b
  · subst same
    rw [toFloat_div_self positive]
    exact ⟨_, _, parts?_one, (le_iff parts?_one parts?_one).mpr (Or.inr ⟨rfl, Nat.le_refl _⟩)⟩
  · have less : a < b := UInt32.lt_of_le_of_ne le same
    obtain ⟨m, e, parts, bound⟩ := exists_parts?_div_of_lt positive less
    exact ⟨m, e, parts, (le_iff parts parts?_one).mpr bound⟩

end Quotient

end LanguageDetection.Double
