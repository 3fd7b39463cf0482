import LanguageDetection.Proofs.Decimal.Fixed
import Mathlib

/-!
Doubles with the fewest digits: the decimal that is written rounds to the double, so that no other
double is nearer to it.
-/

namespace LanguageDetection.Decimal

namespace Ratio

theorem denominator_shift_pos {r : Ratio} (positive : 0 < r.denominator) (e : ℤ) :
    0 < (r.shift e).denominator := by
  unfold shift
  split
  · exact Nat.mul_pos positive (Nat.pow_pos (by decide))
  · exact positive

theorem value_shift (r : Ratio) (e : ℤ) : (r.shift e).value = r.value * 10 ^ (-e) := by
  unfold shift value
  split
  · rename_i nonneg
    obtain ⟨k, rfl⟩ := Int.eq_ofNat_of_zero_le nonneg
    rw [zpow_neg, zpow_natCast, ← div_eq_mul_inv, div_div, Int.toNat_natCast, Nat.pow_eq]
    push_cast
    rfl
  · rename_i negative
    obtain ⟨k, rfl⟩ : ∃ k : ℕ, e = -k := ⟨(-e).toNat, by omega⟩
    simp [div_eq_mul_inv, mul_right_comm]

theorem lt_iff {a b : Ratio} (positive : 0 < a.denominator) (positive' : 0 < b.denominator) :
    a.lt b = true ↔ a.value < b.value := by
  have wide : (0 : ℚ) < a.denominator := by exact_mod_cast positive
  have wide' : (0 : ℚ) < b.denominator := by exact_mod_cast positive'
  rw [lt, decide_eq_true_iff, value, value, div_lt_div_iff₀ wide wide']
  exact_mod_cast Iff.rfl

theorem floor_value (r : Ratio) : ⌊r.value⌋₊ = r.numerator / r.denominator :=
  Nat.floor_div_eq_div r.numerator r.denominator

/-- The first digit is found no lower than it stands, unless the number is too small. -/
theorem le_value_of_go {r : Ratio} (positive : 0 < r.denominator) {fuel place n : ℕ}
    (scaled : n = r.numerator * 10 ^ place)
    (large : (10 : ℚ) ^ (-(place + fuel : ℤ)) ≤ r.value) :
    (10 : ℚ) ^ magnitude.go r fuel place n ≤ r.value := by
  induction fuel generalizing place n with
  | zero => simpa [magnitude.go] using large
  | succ fuel ih =>
      rw [magnitude.go]
      split
      · rename_i reached
        have wide : (0 : ℚ) < r.denominator := by exact_mod_cast positive
        have reached' : (r.denominator : ℚ) ≤ r.numerator * 10 ^ place := by
          exact_mod_cast scaled ▸ reached
        rw [zpow_neg, zpow_natCast, value, le_div_iff₀ wide, inv_mul_le_iff₀ (by positivity)]
        linarith
      · refine ih ?_ ?_
        · rw [scaled, pow_succ, Nat.mul_assoc]
        · convert large using 2
          push_cast
          ring

theorem le_value_of_magnitude {r : Ratio} (positive : 0 < r.denominator) {fuel : ℕ}
    (large : (10 : ℚ) ^ (-(1 + fuel : ℤ)) ≤ r.value) :
    (10 : ℚ) ^ r.magnitude fuel ≤ r.value := by
  unfold magnitude
  split
  · rename_i whole
    have some : 0 < r.numerator / r.denominator := Nat.div_pos whole positive
    obtain ⟨k, counted⟩ : ∃ k, digitCount (r.numerator / r.denominator) = k + 1 :=
      Nat.exists_eq_succ_of_ne_zero (List.length_pos_iff.mpr Nat.toDigits_ne_nil).ne'
    have digits : 10 ^ k ≤ r.numerator / r.denominator := by
      rcases Nat.eq_zero_or_pos k with rfl | more
      · exact some
      · rw [← Nat.not_lt, ← Nat.length_toDigits_le_iff (by decide) more]
        have longer : (Nat.toDigits 10 (r.numerator / r.denominator)).length = k + 1 := counted
        rw [longer]
        exact Nat.not_succ_le_self k
    have place : ((k + 1 : ℕ) : ℤ) - 1 = k := by
      push_cast
      ring
    rw [counted, place, zpow_natCast]
    calc
      (10 : ℚ) ^ k ≤ (r.numerator / r.denominator : ℕ) := by exact_mod_cast digits
      _ ≤ r.value := Nat.cast_div_le
  · exact le_value_of_go positive (by rw [pow_one]) large

end Ratio

def Scaled.value (s : Scaled) : ℚ := s.digits * 10 ^ s.exponent

theorem Scaled.value_trim (s : Scaled) (fuel : ℕ) : (s.trim fuel).value = s.value := by
  induction fuel generalizing s with
  | zero => rfl
  | succ fuel ih =>
      rw [Scaled.trim]
      split
      · rename_i round
        simp only [Bool.and_eq_true, beq_iff_eq] at round
        obtain ⟨tenth, digits⟩ : ∃ tenth, s.digits = tenth * 10 :=
          ⟨s.digits / 10, by omega⟩
        rw [ih, value, value, digits, Nat.mul_div_cancel _ (by decide), zpow_add₀ (by norm_num)]
        push_cast
        ring
      · rfl

namespace Rounding

structure IsProper (r : Rounding) : Prop where
  value : 0 < r.value.denominator
  low : 0 < r.low.denominator
  high : 0 < r.high.denominator

def Holds (r : Rounding) (q : ℚ) : Prop :=
  if r.isClosed then r.low.value ≤ q ∧ q ≤ r.high.value else r.low.value < q ∧ q < r.high.value

variable {r : Rounding}

theorem Holds.between {q : ℚ} (holds : r.Holds q) : r.low.value ≤ q ∧ q ≤ r.high.value := by
  unfold Holds at holds
  split at holds
  · exact holds
  · exact ⟨holds.1.le, holds.2.le⟩

theorem holds_of_lt {q : ℚ} (above : r.low.value < q) (below : q < r.high.value) : r.Holds q := by
  unfold Holds
  split
  · exact ⟨above.le, below.le⟩
  · exact ⟨above, below⟩

theorem contains_iff (proper : r.IsProper) {x : Ratio} (positive : 0 < x.denominator) :
    r.contains x = true ↔ r.Holds x.value := by
  have low := Ratio.lt_iff positive proper.low
  have low' := Ratio.lt_iff proper.low positive
  have high := Ratio.lt_iff proper.high positive
  have high' := Ratio.lt_iff positive proper.high
  unfold contains Holds
  cases r.isClosed with
  | true =>
      rw [← not_lt, ← not_lt, ← low, ← high]
      simp
  | false =>
      rw [← low', ← high']
      simp

theorem value_point (n : ℕ) (exponent : ℤ) :
    (Ratio.shift ⟨n, 1⟩ (-exponent)).value = n * 10 ^ exponent := by
  rw [Ratio.value_shift, neg_neg, Ratio.value]
  norm_num

theorem holds_of_onGrid? (proper : r.IsProper) {exponent : ℤ} {n : ℕ}
    (found : r.onGrid? exponent = some n) : r.Holds (n * 10 ^ exponent) := by
  have holds (k : ℕ) (fits : r.contains (Ratio.shift ⟨k, 1⟩ (-exponent)) = true) :
      r.Holds (k * 10 ^ exponent) := by
    rw [← value_point]
    exact (contains_iff proper (Ratio.denominator_shift_pos Nat.one_pos _)).mp fits
  unfold onGrid? at found
  simp only at found
  generalize (r.value.shift exponent).numerator / (r.value.shift exponent).denominator = down
    at found
  split at found
  · rename_i both
    obtain ⟨downFits, upFits⟩ := Bool.and_eq_true_iff.mp both
    obtain rfl := Option.some.inj found
    split_ifs
    · exact holds _ downFits
    · exact holds _ upFits
    · exact holds _ downFits
    · exact holds _ upFits
  · split at found
    · rename_i downFits
      exact holds _ (Option.some.inj found ▸ downFits)
    · split at found
      · rename_i upFits
        exact holds _ (Option.some.inj found ▸ upFits)
      · contradiction

/-- A grid that is fine enough has a point just below the value. -/
theorem exists_onGrid? (proper : r.IsProper) {exponent : ℤ}
    (fine : ∀ q, r.value.value - 10 ^ exponent < q → q ≤ r.value.value → r.Holds q)
    (nonneg : 0 ≤ r.value.value) : ∃ n, r.onGrid? exponent = some n := by
  let scaled := r.value.shift exponent
  let down := scaled.numerator / scaled.denominator
  have unit : (0 : ℚ) < 10 ^ exponent := by positivity
  have floor : down = ⌊r.value.value / 10 ^ exponent⌋₊ := by
    rw [div_eq_mul_inv, ← zpow_neg, ← Ratio.value_shift, Ratio.floor_value]
  have below : (down : ℚ) * 10 ^ exponent ≤ r.value.value := by
    rw [← le_div_iff₀ unit, floor]
    exact Nat.floor_le (div_nonneg nonneg unit.le)
  have close : r.value.value - 10 ^ exponent < down * 10 ^ exponent := by
    have next := Nat.lt_floor_add_one (r.value.value / 10 ^ exponent)
    rw [← floor, div_lt_iff₀ unit] at next
    linarith
  have downFits : r.contains (Ratio.shift ⟨down, 1⟩ (-exponent)) = true := by
    rw [contains_iff proper (Ratio.denominator_shift_pos Nat.one_pos _), value_point]
    exact fine _ close below
  unfold onGrid?
  simp only
  rw [downFits]
  split
  · exact ⟨_, rfl⟩
  · exact ⟨_, rfl⟩

/-- What is found on the way from coarse to fine grids lies between the ends, if the finest grid has a
point that does. -/
theorem holds_search (proper : r.IsProper) {magnitude : ℤ} {fuel count : ℕ}
    (last : ∃ n, r.onGrid? (magnitude - (fuel + count : ℕ)) = some n) :
    r.Holds (r.search magnitude fuel count).value := by
  induction fuel generalizing count with
  | zero =>
      obtain ⟨n, found⟩ := last
      rw [Nat.zero_add] at found
      rw [search, found]
      exact holds_of_onGrid? proper found
  | succ fuel ih =>
      rw [search]
      split
      · rename_i n found
        rw [Scaled.value_trim]
        exact holds_of_onGrid? proper found
      · refine ih ?_
        rwa [Nat.add_comm count, ← Nat.add_assoc]

end Rounding

/-- The significands and exponents of doubles: the exponent is as small as the significand lets it
be. -/
structure IsDouble (mantissa : ℕ) (exponent : ℤ) : Prop where
  short : mantissa < 2 ^ 53
  least : -1074 ≤ exponent
  normal : 2 ^ 52 ≤ mantissa ∨ exponent = -1074

theorem isDouble_of_ofBits {bits : UInt64} {isNegative : Bool} {mantissa : ℕ} {exponent : ℤ}
    (finite : Parts.ofBits bits = .finite isNegative mantissa exponent) :
    IsDouble mantissa exponent := by
  have fraction : (bits &&& 0xFFFFFFFFFFFFF).toNat < 2 ^ 52 := by
    rw [UInt64.toNat_and]
    exact Nat.and_lt_two_pow _ (by decide)
  unfold Parts.ofBits at finite
  simp only at finite
  split at finite
  · split at finite <;> contradiction
  · split at finite
    · injection finite with _ isMantissa isExponent
      exact ⟨by omega, by omega, Or.inr isExponent.symm⟩
    · rename_i subnormal
      have biased : (bits >>> 52 &&& 0x7FF).toNat ≠ 0 := fun zero => subnormal (beq_iff_eq.mpr zero)
      injection finite with _ isMantissa isExponent
      have leading : Nat.pow 2 52 = 2 ^ 52 := rfl
      exact ⟨by omega, by omega, Or.inl (by omega)⟩

namespace IsDouble

variable {mantissa mantissa' : ℕ} {exponent exponent' : ℤ}

def gapBelow (mantissa : ℕ) (exponent : ℤ) : ℚ :=
  if mantissa = 2 ^ 52 ∧ exponent ≠ -1074 then 2 ^ (exponent - 1) else 2 ^ exponent

theorem multiple_of_le (mantissa' : ℕ) (later : exponent ≤ exponent') :
    ∃ n : ℕ, (mantissa' * 2 ^ exponent' : ℚ) = n * 2 ^ exponent := by
  obtain ⟨k, rfl⟩ : ∃ k : ℕ, exponent' = k + exponent := ⟨(exponent' - exponent).toNat, by omega⟩
  refine ⟨mantissa' * 2 ^ k, ?_⟩
  rw [zpow_add₀ (by norm_num), zpow_natCast]
  push_cast
  ring

/-- A double with a smaller exponent is at least the last place of that smaller. -/
theorem le_of_exponent_lt (double : IsDouble mantissa exponent)
    (double' : IsDouble mantissa' exponent') (earlier : exponent' < exponent) :
    (mantissa' * 2 ^ exponent' : ℚ) ≤ mantissa * 2 ^ exponent - gapBelow mantissa exponent ∧
      2 ^ 52 ≤ mantissa := by
  have large : 2 ^ 52 ≤ mantissa := by
    rcases double.normal with normal | isLeast
    · exact normal
    · have := double'.least
      omega
  refine ⟨?_, large⟩
  have half : (2 : ℚ) ^ exponent = 2 * 2 ^ (exponent - 1) := by
    rw [zpow_sub_one₀ (by norm_num)]
    ring
  have unit : (0 : ℚ) < 2 ^ (exponent - 1) := by positivity
  have short : (mantissa' : ℚ) ≤ 2 ^ 53 - 1 := by
    have := double'.short
    have : mantissa' + 1 ≤ 2 ^ 53 := by omega
    have : (mantissa' : ℚ) + 1 ≤ 2 ^ 53 := by exact_mod_cast this
    linarith
  have lower : (2 : ℚ) ^ exponent' ≤ 2 ^ (exponent - 1) :=
    zpow_le_zpow_right₀ (by norm_num) (by omega)
  have bound : (mantissa' * 2 ^ exponent' : ℚ) ≤ (2 ^ 53 - 1) * 2 ^ (exponent - 1) :=
    mul_le_mul short lower (by positivity) (by norm_num)
  have large' : (2 ^ 52 : ℚ) ≤ mantissa := by exact_mod_cast large
  unfold gapBelow
  split_ifs with isPower
  · rw [half]
    nlinarith
  · have larger : (2 ^ 52 + 1 : ℚ) ≤ mantissa := by
      have : 2 ^ 52 ≠ mantissa := by
        intro same
        apply isPower
        have := double'.least
        exact ⟨same.symm, by omega⟩
      have : 2 ^ 52 + 1 ≤ mantissa := by omega
      exact_mod_cast this
    rw [half]
    nlinarith

theorem gapBelow_le : gapBelow mantissa exponent ≤ 2 ^ exponent := by
  unfold gapBelow
  split_ifs
  · exact zpow_le_zpow_right₀ (by norm_num) (by omega)
  · exact le_rfl

theorem gapBelow_nonneg : 0 ≤ gapBelow mantissa exponent := by
  unfold gapBelow
  split_ifs <;> positivity

theorem half_le_gapBelow : 2 ^ exponent / 2 ≤ gapBelow mantissa exponent := by
  have half : (2 : ℚ) ^ exponent = 2 * 2 ^ (exponent - 1) := by
    rw [zpow_sub_one₀ (by norm_num)]
    ring
  have unit : (0 : ℚ) < 2 ^ exponent := by positivity
  unfold gapBelow
  split_ifs <;> linarith

theorem least_le (double : IsDouble mantissa exponent) (positive : 0 < mantissa) :
    (2 : ℚ) ^ (-1074 : ℤ) ≤ mantissa * 2 ^ exponent := by
  have least : (2 : ℚ) ^ (-1074 : ℤ) ≤ 2 ^ exponent :=
    zpow_le_zpow_right₀ (by norm_num) double.least
  have large : (1 : ℚ) ≤ mantissa := by exact_mod_cast positive
  exact least.trans (le_mul_of_one_le_left (by positivity) large)

theorem add_gap_le (double : IsDouble mantissa exponent) (double' : IsDouble mantissa' exponent')
    (less : (mantissa' * 2 ^ exponent' : ℚ) < mantissa * 2 ^ exponent) :
    (mantissa' * 2 ^ exponent' : ℚ) + gapBelow mantissa exponent ≤ mantissa * 2 ^ exponent := by
  have unit : (0 : ℚ) < 2 ^ exponent := by positivity
  rcases lt_or_ge exponent' exponent with earlier | later
  · have := (double.le_of_exponent_lt double' earlier).1
    linarith
  · obtain ⟨n, same⟩ := multiple_of_le mantissa' later
    rw [same] at less ⊢
    have fewer : n < mantissa := by exact_mod_cast lt_of_mul_lt_mul_right less unit.le
    have step : (n + 1 : ℚ) ≤ mantissa := by exact_mod_cast fewer
    have gap : gapBelow mantissa exponent ≤ 2 ^ exponent := gapBelow_le
    nlinarith

theorem add_unit_le (double : IsDouble mantissa exponent) (double' : IsDouble mantissa' exponent')
    (more : (mantissa * 2 ^ exponent : ℚ) < mantissa' * 2 ^ exponent') :
    (mantissa * 2 ^ exponent + 2 ^ exponent : ℚ) ≤ mantissa' * 2 ^ exponent' := by
  have unit : (0 : ℚ) < 2 ^ exponent := by positivity
  rcases lt_or_ge exponent' exponent with earlier | later
  · have := (double.le_of_exponent_lt double' earlier).1
    have gap : 0 ≤ gapBelow mantissa exponent := gapBelow_nonneg
    linarith
  · obtain ⟨n, same⟩ := multiple_of_le mantissa' later
    rw [same] at more ⊢
    have fewer : mantissa < n := by exact_mod_cast lt_of_mul_lt_mul_right more unit.le
    have step : (mantissa + 1 : ℚ) ≤ n := by exact_mod_cast fewer
    nlinarith

/-- Of all doubles, those between the ends are nearest to this one. -/
theorem nearest (double : IsDouble mantissa exponent) {r : Rounding} {q : ℚ} (holds : r.Holds q)
    (low : r.low.value = mantissa * 2 ^ exponent - gapBelow mantissa exponent / 2)
    (high : r.high.value = mantissa * 2 ^ exponent + 2 ^ exponent / 2)
    (closed : r.isClosed = true → mantissa % 2 = 0) (double' : IsDouble mantissa' exponent') :
    |q - mantissa * 2 ^ exponent| ≤ |q - mantissa' * 2 ^ exponent'| ∧
      (|q - mantissa * 2 ^ exponent| = |q - mantissa' * 2 ^ exponent'| →
        (mantissa' * 2 ^ exponent' : ℚ) = mantissa * 2 ^ exponent ∨ mantissa % 2 = 0) := by
  obtain ⟨above, below⟩ := holds.between
  have atEnd (reached : q ≤ r.low.value ∨ r.high.value ≤ q) : mantissa % 2 = 0 := by
    unfold Rounding.Holds at holds
    split at holds
    · rename_i isClosed
      exact closed isClosed
    · rcases reached with reached | reached
      · exact absurd holds.1 (not_lt.mpr reached)
      · exact absurd holds.2 (not_lt.mpr reached)
  rw [low] at above atEnd
  rw [high] at below atEnd
  have gap : 0 ≤ gapBelow mantissa exponent := gapBelow_nonneg
  have unit : (0 : ℚ) < 2 ^ exponent := by positivity
  rcases lt_trichotomy (mantissa' * 2 ^ exponent' : ℚ) (mantissa * 2 ^ exponent)
    with less | same | more
  · have apart := double.add_gap_le double' less
    have side : (0 : ℚ) ≤ q - mantissa' * 2 ^ exponent' := by linarith
    rw [abs_of_nonneg side]
    refine ⟨abs_le.mpr ⟨by linarith, by linarith⟩, fun tie => Or.inr (atEnd (Or.inl ?_))⟩
    rcases abs_choice (q - mantissa * 2 ^ exponent) with isAbs | isAbs
    · linarith
    · linarith
  · exact ⟨by rw [same], fun _ => Or.inl same⟩
  · have apart := double.add_unit_le double' more
    have side : q - mantissa' * 2 ^ exponent' ≤ 0 := by linarith
    rw [abs_of_nonpos side]
    refine ⟨abs_le.mpr ⟨by linarith, by linarith⟩, fun tie => Or.inr (atEnd (Or.inr ?_))⟩
    rcases abs_choice (q - mantissa * 2 ^ exponent) with isAbs | isAbs
    · linarith
    · linarith

end IsDouble

theorem isProper_ofFinite (mantissa : ℕ) (exponent : ℤ) :
    (Rounding.ofFinite mantissa exponent).IsProper where
  value := Ratio.denominator_ofBinary_pos _ _
  low := Ratio.denominator_ofBinary_pos _ _
  high := Ratio.denominator_ofBinary_pos _ _

section

variable {mantissa : ℕ} {exponent : ℤ}

theorem value_ofFinite : (Rounding.ofFinite mantissa exponent).value.value =
    mantissa * 2 ^ exponent := by
  rw [Rounding.ofFinite, Ratio.value_ofBinary, zpow_sub₀ (by norm_num)]
  push_cast
  ring

theorem high_ofFinite : (Rounding.ofFinite mantissa exponent).high.value =
    mantissa * 2 ^ exponent + 2 ^ exponent / 2 := by
  rw [Rounding.ofFinite, Ratio.value_ofBinary, zpow_sub₀ (by norm_num)]
  push_cast
  ring

theorem low_ofFinite (positive : 0 < mantissa) : (Rounding.ofFinite mantissa exponent).low.value =
    mantissa * 2 ^ exponent - IsDouble.gapBelow mantissa exponent / 2 := by
  rw [Rounding.ofFinite, Ratio.value_ofBinary, IsDouble.gapBelow, zpow_sub₀ (by norm_num),
    zpow_sub_one₀ (by norm_num)]
  have isPower : (mantissa == Nat.pow 2 52 && exponent != -1074) = true ↔
      mantissa = 2 ^ 52 ∧ exponent ≠ -1074 := by
    rw [Bool.and_eq_true, beq_iff_eq, bne_iff_ne]
    rfl
  simp only [isPower]
  split_ifs
  · push_cast [Nat.cast_sub (by omega : 1 ≤ 4 * mantissa)]
    ring
  · push_cast [Nat.cast_sub (by omega : 2 ≤ 4 * mantissa)]
    ring

/-- Eighteen digits are enough, and so are at most as many as have been tried by then. -/
theorem holds_shortest (double : IsDouble mantissa exponent) (positive : 0 < mantissa) :
    (Rounding.ofFinite mantissa exponent).Holds (shortest mantissa exponent).value := by
  have proper := isProper_ofFinite mantissa exponent
  have value : (Rounding.ofFinite mantissa exponent).value.value = mantissa * 2 ^ exponent :=
    value_ofFinite
  have short : (mantissa : ℚ) < 2 ^ 53 := by exact_mod_cast double.short
  have unit : (0 : ℚ) < 2 ^ exponent := by positivity
  have tiny : (10 : ℚ) ^ (-(1 + 400 : ℤ)) ≤ 2 ^ (-1074 : ℤ) := by
    have wide : 2 ^ 1074 ≤ 10 ^ (1 + 400) := by decide +kernel
    rw [zpow_neg, zpow_neg]
    apply inv_anti₀ (by positivity)
    exact_mod_cast wide
  have digit := Ratio.le_value_of_magnitude proper.value
    (value ▸ tiny.trans (double.least_le positive))
  rw [value] at digit
  have fine : (10 : ℚ) ^ ((Rounding.ofFinite mantissa exponent).value.magnitude 400
      - (17 + 0 : ℕ)) < 2 ^ exponent / 4 := by
    rw [zpow_sub₀ (by norm_num), div_lt_iff₀ (by positivity)]
    norm_num
    nlinarith
  -- The finest grid has a point within a quarter of a unit, which is as far as the ends or less.
  apply Rounding.holds_search proper
  apply Rounding.exists_onGrid? proper
  · intro q close below
    rw [value] at close below
    have close' := (sub_lt_sub_left fine (mantissa * 2 ^ exponent)).trans close
    apply Rounding.holds_of_lt
    · have gap : 2 ^ exponent / 2 ≤ IsDouble.gapBelow mantissa exponent := IsDouble.half_le_gapBelow
      rw [low_ofFinite positive]
      linarith
    · rw [high_ofFinite]
      linarith
  · rw [value]
    positivity

end

end LanguageDetection.Decimal
