import LanguageDetection.Decimal.Shortest
import Mathlib.Algebra.Order.Field.Rat
import Mathlib.Algebra.Order.AbsoluteValue.Basic
import Mathlib.Tactic.FieldSimp
import Mathlib.Tactic.Linarith
import Mathlib.Tactic.Positivity

/-!
Doubles with a fixed number of places: the decimal of that length that is nearest to the double, and
of two that are equally near the even one.
-/

namespace LanguageDetection.Decimal

structure IsNearest (x : ℚ) (n : ℕ) : Prop where
  near : |x - n| ≤ 1 / 2
  even_of_tie : |x - n| = 1 / 2 → n % 2 = 0

theorem IsNearest.of_lt {x : ℚ} {n : ℕ} (distance : |x - n| < 1 / 2) : IsNearest x n where
  near := distance.le
  even_of_tie tie := absurd tie distance.ne

theorem IsNearest.of_even {x : ℚ} {n : ℕ} (distance : |x - n| = 1 / 2) (even : n % 2 = 0) :
    IsNearest x n where
  near := distance.le
  even_of_tie _ := even

theorem isNearest_roundQuotient (numerator : ℕ) {denominator : ℕ} (positive : 0 < denominator) :
    IsNearest (numerator / denominator) (roundQuotient numerator denominator) := by
  let q := numerator / denominator
  let r := numerator % denominator
  have below : r < denominator := Nat.mod_lt numerator positive
  have wide : (0 : ℚ) < denominator := by exact_mod_cast positive
  have divided : (numerator / denominator : ℚ) = q + r / denominator := by
    have whole : (denominator * q + r : ℚ) = numerator := by
      exact_mod_cast Nat.div_add_mod numerator denominator
    field_simp
    exact whole.symm
  rw [divided, roundQuotient]
  split_ifs with less more even
  · have small : (r / denominator : ℚ) < 1 / 2 := by
      have doubled : (2 * r : ℚ) < denominator := by exact_mod_cast less
      rw [div_lt_iff₀ wide]
      linarith
    have nonneg : (0 : ℚ) ≤ r / denominator := by positivity
    apply IsNearest.of_lt
    rwa [add_sub_cancel_left, abs_of_nonneg nonneg]
  · have large : (1 / 2 : ℚ) < r / denominator := by
      have doubled : (denominator : ℚ) < 2 * r := by exact_mod_cast more
      rw [lt_div_iff₀ wide]
      linarith
    have proper : (r / denominator : ℚ) < 1 := by
      rw [div_lt_one wide]
      exact_mod_cast below
    apply IsNearest.of_lt
    rw [abs_lt]
    push_cast
    constructor <;> linarith
  all_goals
    have half : (r / denominator : ℚ) = 1 / 2 := by
      have doubled : (2 * r : ℚ) = denominator := by exact_mod_cast (by omega : 2 * r = denominator)
      rw [div_eq_iff wide.ne']
      linarith
    rw [half]
  · have distance : |(q + 1 / 2 : ℚ) - q| = 1 / 2 := by norm_num
    exact IsNearest.of_even distance (beq_iff_eq.mp even)
  · have odd : q % 2 ≠ 0 := fun even' => even (beq_iff_eq.mpr even')
    have distance : |(q + 1 / 2 : ℚ) - (q + 1 : ℕ)| = 1 / 2 := by
      push_cast
      norm_num
    exact IsNearest.of_even distance (by omega)

def Ratio.value (r : Ratio) : ℚ := r.numerator / r.denominator

theorem Ratio.denominator_ofBinary_pos (n : ℕ) (e : ℤ) : 0 < (Ratio.ofBinary n e).denominator := by
  unfold Ratio.ofBinary
  split
  · exact Nat.one_pos
  · exact Nat.two_pow_pos _

theorem Ratio.value_ofBinary (n : ℕ) (e : ℤ) : (Ratio.ofBinary n e).value = n * 2 ^ e := by
  unfold Ratio.ofBinary Ratio.value
  split
  · rename_i nonneg
    obtain ⟨k, rfl⟩ := Int.eq_ofNat_of_zero_le nonneg
    simp
  · rename_i negative
    obtain ⟨k, rfl⟩ : ∃ k : ℕ, e = -k := ⟨(-e).toNat, by omega⟩
    simp [div_eq_mul_inv]

/-- The last digits of a number, with zeros in front if there are fewer. -/
def lastDigits (places n : ℕ) : List Char :=
  List.replicate (places - (Nat.toDigits 10 n).length) '0' ++ Nat.toDigits 10 n

theorem lastDigits_append {places n d : ℕ} (some : 0 < places) (digit : d < 10) :
    lastDigits places n ++ Nat.toDigits 10 d = lastDigits (places + 1) (10 * n + d) := by
  unfold lastDigits
  rcases Nat.eq_zero_or_pos n with rfl | positive
  · obtain ⟨fewer, rfl⟩ : ∃ fewer, places = fewer + 1 := ⟨places - 1, by omega⟩
    rw [Nat.mul_zero, Nat.zero_add, Nat.toDigits_zero, Nat.toDigits_of_lt_base digit,
      ← List.replicate_succ']
    rfl
  · rw [← Nat.toDigits_append_toDigits (by decide) positive digit, List.append_assoc,
      Nat.toDigits_of_lt_base digit, List.length_append, List.length_singleton,
      Nat.add_sub_add_right]

theorem toDigits_eq_append {places n : ℕ} (some : 0 < places) (long : 10 ^ places ≤ n) :
    Nat.toDigits 10 n =
      Nat.toDigits 10 (n / 10 ^ places) ++ lastDigits places (n % 10 ^ places) := by
  have digit : n % 10 < 10 := Nat.mod_lt n (by decide)
  -- The last digit is split off, so that the places before it are those of a tenth of the number.
  induction places, some using Nat.le_induction generalizing n with
  | base =>
      have last : lastDigits 1 (n % 10) = Nat.toDigits 10 (n % 10) := by
        rw [lastDigits, Nat.toDigits_of_lt_base digit]
        rfl
      have front : 0 < n / 10 := Nat.div_pos long (by decide)
      rw [pow_one, last, Nat.toDigits_append_toDigits (by decide) front digit, Nat.div_add_mod]
  | succ places some ih =>
      have shorter : 10 ^ places ≤ n / 10 := by
        rw [Nat.le_div_iff_mul_le (by decide), ← pow_succ]
        exact long
      have front : 0 < n / 10 := (Nat.pos_of_ne_zero (by positivity)).trans_le shorter
      calc
        Nat.toDigits 10 n = Nat.toDigits 10 (n / 10) ++ Nat.toDigits 10 (n % 10) := by
          rw [Nat.toDigits_append_toDigits (by decide) front digit, Nat.div_add_mod]
        _ = Nat.toDigits 10 (n / 10 / 10 ^ places)
              ++ (lastDigits places (n / 10 % 10 ^ places) ++ Nat.toDigits 10 (n % 10)) := by
          rw [ih shorter (Nat.mod_lt _ (by decide)), List.append_assoc]
        _ = _ := by
          rw [lastDigits_append some digit, Nat.div_div_eq_div_mul, ← pow_succ',
            pow_succ' 10 places, Nat.mod_mul, Nat.add_comm (n % 10)]

theorem length_lastDigits {places n : ℕ} (some : 0 < places) (short : n < 10 ^ places) :
    (lastDigits places n).length = places := by
  have fits := (Nat.length_toDigits_le_iff (by decide) some).mpr short
  rw [lastDigits, List.length_append, List.length_replicate]
  omega

/-- A number with zeros in front, so that it has a digit before its last ones. -/
theorem padded_eq {places : ℕ} (some : 0 < places) (n : ℕ) :
    List.replicate (places + 1 - (Nat.toDigits 10 n).length) '0' ++ Nat.toDigits 10 n =
      Nat.toDigits 10 (n / 10 ^ places) ++ lastDigits places (n % 10 ^ places) := by
  by_cases short : n < 10 ^ places
  · have fits := (Nat.length_toDigits_le_iff (by decide) some).mpr short
    rw [Nat.div_eq_of_lt short, Nat.mod_eq_of_lt short, Nat.succ_sub fits, lastDigits]
    rfl
  · have longer : places < (Nat.toDigits 10 n).length := by
      rw [← Nat.not_le, Nat.length_toDigits_le_iff (by decide) some]
      exact short
    rw [Nat.sub_eq_zero_of_le longer, List.replicate_zero, List.nil_append]
    exact toDigits_eq_append some (Nat.not_lt.mp short)

def placed (places n : ℕ) : String :=
  toString (n / 10 ^ places) ++ "." ++ String.ofList (lastDigits places (n % 10 ^ places))

theorem fixed_eq {places : ℕ} (some : 0 < places) {x : Float} {isNegative : Bool} {mantissa : ℕ}
    {exponent : ℤ} (finite : Parts.ofBits x.toBits = .finite isNegative mantissa exponent) :
    ∃ n, IsNearest (mantissa * 2 ^ exponent * 10 ^ places) n ∧
      fixed places x = (if isNegative then "-" else "") ++ placed places n := by
  let r := Ratio.ofBinary mantissa exponent
  let n := roundQuotient (r.numerator * 10 ^ places) r.denominator
  refine ⟨n, ?_, ?_⟩
  · have nearest := isNearest_roundQuotient (r.numerator * 10 ^ places)
      (Ratio.denominator_ofBinary_pos mantissa exponent)
    have scaled : ((r.numerator * 10 ^ places : ℕ) / r.denominator : ℚ) =
        mantissa * 2 ^ exponent * 10 ^ places := by
      rw [← Ratio.value_ofBinary, Ratio.value, Nat.cast_mul, mul_div_right_comm]
      push_cast
      rfl
    rwa [← scaled]
  · let sign := if isNegative then "-" else ""
    let padded :=
      String.ofList (List.replicate (places + 1 - (toString n).length) '0') ++ toString n
    let front := Nat.toDigits 10 (n / 10 ^ places)
    let back := lastDigits places (n % 10 ^ places)
    have chars : padded.toList = front ++ back := by
      rw [String.toList_append, String.toList_ofList, Nat.toString_eq_ofList_toDigits,
        String.length_ofList, String.toList_ofList]
      exact padded_eq some n
    have whole : padded.length - places = front.length := by
      have length : back.length = places :=
        length_lastDigits some (Nat.mod_lt n (by positivity))
      rw [← String.length_toList, chars, List.length_append, length, Nat.add_sub_cancel]
    have point : (if places == 0 then "" else ".") = "." := by
      rw [beq_false_of_ne some.ne']
      rfl
    calc
      fixed places x = sign ++ String.ofList (padded.toList.take (padded.length - places))
          ++ (if places == 0 then "" else ".")
          ++ String.ofList (padded.toList.drop (padded.length - places)) := by
        rw [fixed, finite]
        rfl
      _ = sign ++ String.ofList front ++ "." ++ String.ofList back := by
        rw [whole, chars, List.take_left, List.drop_left, point]
      _ = sign ++ placed places n := by
        rw [placed, Nat.toString_eq_ofList_toDigits, String.append_assoc, String.append_assoc,
          String.append_assoc]

end LanguageDetection.Decimal
