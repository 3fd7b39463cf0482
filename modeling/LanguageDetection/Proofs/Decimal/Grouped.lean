import LanguageDetection.Decimal.Grouped
import LanguageDetection.Proofs.Text.Split
import Mathlib

/-!
Numbers with commas: the text of a number in groups is the only one that has its digits, in that
order, between commas that leave three digits in every group after the first.
-/

namespace LanguageDetection.Decimal

open LanguageDetection.Text

/-- A first group of one to three digits, and others of three. -/
structure InThrees (first : List Char) (others : List (List Char)) : Prop where
  one_le : 1 ≤ first.length
  le_three : first.length ≤ 3
  eq_three : ∀ group ∈ others, group.length = 3

theorem inThrees_singleton (digit : Char) : InThrees [digit] [] where
  one_le := Nat.le_refl 1
  le_three := Nat.le_add_left 1 2
  eq_three := List.forall_mem_nil _

section

variable {first : List Char} {others : List (List Char)} (inThrees : InThrees first others)

include inThrees

theorem InThrees.cons (digit : Char) (room : first.length < 3) :
    InThrees (digit :: first) others where
  one_le := Nat.le_add_left 1 first.length
  le_three := room
  eq_three := inThrees.eq_three

theorem InThrees.next (digit : Char) (full : first.length = 3) :
    InThrees [digit] (first :: others) where
  one_le := Nat.le_refl 1
  le_three := Nat.le_add_left 1 2
  eq_three := List.forall_mem_cons.mpr ⟨full, inThrees.eq_three⟩

theorem InThrees.map_length : others.map List.length = List.replicate others.length 3 :=
  List.map_eq_replicate_iff.mpr inThrees.eq_three

theorem InThrees.length_flatten :
    (first :: others).flatten.length = first.length + 3 * others.length := by
  rw [List.flatten_cons, List.length_append, List.length_flatten, inThrees.map_length,
    List.sum_replicate, smul_eq_mul, Nat.mul_comm]

theorem InThrees.nil_not_mem : [] ∉ first :: others := by
  intro empty
  cases List.mem_cons.mp empty with
  | inl isFirst => exact absurd inThrees.one_le (by simp [← isFirst])
  | inr isOther => exact absurd (inThrees.eq_three [] isOther) (by decide)

/-- Digits fall into groups in one way, since the first group has what is left over. -/
theorem InThrees.unique {first' : List Char} {others' : List (List Char)}
    (inThrees' : InThrees first' others')
    (same : (first :: others).flatten = (first' :: others').flatten) :
    first :: others = first' :: others' := by
  have total : first.length + 3 * others.length = first'.length + 3 * others'.length := by
    rw [← inThrees.length_flatten, same, inThrees'.length_flatten]
  have counts : first.length = first'.length ∧ others.length = others'.length := by
    obtain ⟨low, high, -⟩ := inThrees
    obtain ⟨low', high', -⟩ := inThrees'
    omega
  rw [List.eq_iff_flatten_eq, List.map_cons, List.map_cons, inThrees.map_length,
    inThrees'.map_length, counts.1, counts.2]
  exact ⟨same, rfl⟩

end

section

variable {digits : List Char}

theorem groupDigits_cons {rest : List Char} (digit : Char) (more : rest ≠ []) :
    groupDigits (digit :: rest) =
      if rest.length % 3 = 0 then digit :: ',' :: groupDigits rest
      else digit :: groupDigits rest := by
  simp [groupDigits, more]

theorem filter_groupDigits (plain : ',' ∉ digits) :
    (groupDigits digits).filter (· != ',') = digits := by
  induction digits with
  | nil => rfl
  | cons digit rest ih =>
      obtain ⟨other, plainRest⟩ := List.ne_and_not_mem_of_not_mem_cons plain
      have kept : (digit != ',') = true := bne_iff_ne.mpr other.symm
      rw [groupDigits]
      split
      · simp [kept, ih plainRest]
      · simp [kept, ih plainRest]

theorem exists_splitChars_groupDigits (nonempty : digits ≠ []) (plain : ',' ∉ digits) :
    ∃ first others, splitChars ',' (groupDigits digits) = first :: others ∧
      InThrees first others := by
  induction digits with
  | nil => exact absurd rfl nonempty
  | cons digit rest ih =>
      obtain ⟨other, plainRest⟩ := List.ne_and_not_mem_of_not_mem_cons plain
      by_cases last : rest = []
      · rw [last]
        exact ⟨[digit], [], splitChars_cons_of_ne other.symm rfl, inThrees_singleton digit⟩
      · obtain ⟨first, others, split, inThrees⟩ := ih last plainRest
        -- The first group is full just if a multiple of three digits follows.
        have length : rest.length = first.length + 3 * others.length := by
          rw [← inThrees.length_flatten, ← split, flatten_splitChars, filter_groupDigits plainRest]
        have low := inThrees.one_le
        have high := inThrees.le_three
        rw [groupDigits_cons digit last]
        split_ifs with full
        · refine ⟨[digit], first :: others, ?_, inThrees.next digit (by omega)⟩
          rw [splitChars_cons_of_ne other.symm (splitChars_separator_cons ',' _), split]
        · exact ⟨digit :: first, others, splitChars_cons_of_ne other.symm split,
            inThrees.cons digit (by omega)⟩

end

def withoutCommas (text : String) : String :=
  String.ofList (text.toList.filter (· != ','))

/-- A text that has the digits of a number in groups of three. -/
structure IsGrouped (n : ℕ) (text : String) : Prop where
  withoutCommas_eq : withoutCommas text = toString n
  inThrees : ∃ first others, splitChars ',' text.toList = first :: others ∧ InThrees first others

theorem isGrouped_grouped (n : ℕ) : IsGrouped n (grouped n) := by
  have plain : ',' ∉ Nat.toDigits 10 n := by
    intro comma
    exact absurd (Nat.isDigit_of_mem_toDigits (by decide) (by decide) comma) (by decide)
  constructor
  case withoutCommas_eq =>
    rw [withoutCommas, grouped, String.toList_ofList, filter_groupDigits plain,
      Nat.toString_eq_ofList_toDigits]
  case inThrees =>
    rw [grouped, String.toList_ofList]
    exact exists_splitChars_groupDigits Nat.toDigits_ne_nil plain

theorem IsGrouped.unique {n : ℕ} {text text' : String} (isGrouped : IsGrouped n text)
    (isGrouped' : IsGrouped n text') : text = text' := by
  obtain ⟨first, others, split, inThrees⟩ := isGrouped.inThrees
  obtain ⟨first', others', split', inThrees'⟩ := isGrouped'.inThrees
  have digits : text.toList.filter (· != ',') = text'.toList.filter (· != ',') :=
    String.ofList_injective (isGrouped.withoutCommas_eq.trans isGrouped'.withoutCommas_eq.symm)
  have pieces : splitChars ',' text.toList = splitChars ',' text'.toList := by
    rw [split, split']
    apply inThrees.unique inThrees'
    rw [← split, ← split', flatten_splitChars, flatten_splitChars, digits]
  exact String.toList_inj.mp (splitChars_inj.mp pieces)

theorem IsGrouped.toNat?_eq {n : ℕ} {text : String} (isGrouped : IsGrouped n text) :
    (withoutCommas text).toNat? = some n := by
  rw [isGrouped.withoutCommas_eq]
  exact Nat.toNat?_repr n

theorem IsGrouped.isSeparated {n : ℕ} {text : String} (isGrouped : IsGrouped n text) :
    IsSeparated ',' text.toList := by
  obtain ⟨first, others, split, inThrees⟩ := isGrouped.inThrees
  apply isSeparated_of_nil_not_mem
  rw [split]
  exact inThrees.nil_not_mem

/-- A number with commas is the one text that has its digits in groups of three; it reads back, and
no comma is stray. -/
theorem grouped_determined :
    (∀ n : ℕ, (∀ text, IsGrouped n text ↔ text = grouped n) ∧
      (withoutCommas (grouped n)).toNat? = some n ∧ IsSeparated ',' (grouped n).toList) ∧
    Function.Injective grouped := by
  constructor
  · intro n
    have isGrouped := isGrouped_grouped n
    refine ⟨?_, isGrouped.toNat?_eq, isGrouped.isSeparated⟩
    intro text
    constructor
    · intro isGrouped'
      exact isGrouped'.unique isGrouped
    · intro eq
      rw [eq]
      exact isGrouped
  · intro n m same
    have read : some n = some m := by
      rw [← (isGrouped_grouped n).toNat?_eq, same, (isGrouped_grouped m).toNat?_eq]
    exact Option.some.inj read

example : grouped 1048576 = "1,048,576" := by decide

end LanguageDetection.Decimal
