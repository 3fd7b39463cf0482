import LanguageDetection.Signature.Registry

/-!
Weights together: they add up to their sum, or to the greatest weight if that is less. So part of
some rules never weighs more than all of them.
-/

namespace LanguageDetection

def greatestWeight : Nat := UInt32.size - 1

def weightSum : List Rule → Nat
  | [] => 0
  | rule :: rest => rule.weight.toNat + weightSum rest

theorem toNat_addWeights (a b : UInt32) :
    (addWeights a b).toNat = min greatestWeight (a.toNat + b.toNat) := by
  unfold addWeights greatestWeight
  split
  · rename_i fits
    have fitting : (a + b).toNat = a.toNat + b.toNat := by
      rw [UInt32.toNat_add]
      exact Nat.mod_eq_of_lt fits
    omega
  · rename_i overflows
    rw [UInt32.toNat_ofNat_of_lt' (by decide)]
    omega

private theorem toNat_foldl_addWeights (rules : List Rule) (total : UInt32) :
    (rules.foldl (fun total rule => addWeights total rule.weight) total).toNat =
      min greatestWeight (total.toNat + weightSum rules) := by
  induction rules generalizing total with
  | nil =>
      have bound : total.toNat ≤ greatestWeight := Nat.le_pred_of_lt total.toNat_lt
      rw [List.foldl_nil, weightSum]
      omega
  | cons rule rest ih =>
      -- A total that is cut off stays at the greatest weight, whatever is still added.
      rw [List.foldl_cons, ih, toNat_addWeights, weightSum]
      omega

theorem toNat_weightOf (rules : List Rule) :
    (weightOf rules).toNat = min greatestWeight (weightSum rules) := by
  rw [weightOf, toNat_foldl_addWeights]
  exact congrArg (min greatestWeight) (Nat.zero_add _)

theorem weightSum_le_of_sublist {some all : List Rule} (sublist : some.Sublist all) :
    weightSum some ≤ weightSum all := by
  induction sublist with
  | slnil => exact Nat.le_refl _
  | cons rule _ ih => exact Nat.le_trans ih (Nat.le_add_left _ _)
  | cons_cons rule _ ih => exact Nat.add_le_add_left ih _

theorem weightOf_le_of_sublist {some all : List Rule} (sublist : some.Sublist all) :
    weightOf some ≤ weightOf all := by
  have le := weightSum_le_of_sublist sublist
  rw [UInt32.le_iff_toNat_le, toNat_weightOf, toNat_weightOf]
  omega

theorem weightOf_pos_iff {rules : List Rule} (weighted : ∀ rule ∈ rules, rule.weight ≠ 0) :
    0 < weightOf rules ↔ rules ≠ [] := by
  rw [UInt32.lt_iff_toNat_lt, toNat_weightOf]
  cases rules with
  | nil => simp [weightSum, greatestWeight]
  | cons rule rest =>
      have positive : rule.weight.toNat ≠ 0 := by
        intro zero
        exact weighted rule List.mem_cons_self (UInt32.toNat_inj.mp zero)
      have greatest : greatestWeight = 2 ^ 32 - 1 := rfl
      simp only [weightSum, ne_eq, reduceCtorEq, not_false_eq_true, iff_true, UInt32.toNat_zero]
      omega

end LanguageDetection
