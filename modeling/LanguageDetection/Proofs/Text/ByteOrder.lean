import LanguageDetection.Proofs.Text.Utf8

/-!
The order of texts is the order of their bytes in UTF-8: of two characters the greater number has
the greater byte where their encodings first differ, and neither encoding starts with the other.
-/

namespace LanguageDetection.Text.Utf8

/-- Bytes that are less than others at the first place where they differ, before either ends. -/
inductive Below : List UInt8 → List UInt8 → Prop
  | here {x y : UInt8} {xs ys : List UInt8} (less : x < y) : Below (x :: xs) (y :: ys)
  | there {x : UInt8} {xs ys : List UInt8} (below : Below xs ys) : Below (x :: xs) (x :: ys)

theorem Below.append_lt {xs ys : List UInt8} (below : Below xs ys) (after after' : List UInt8) :
    xs ++ after < ys ++ after' := by
  induction below with
  | here less => exact List.cons_lt_cons_iff.mpr (Or.inl less)
  | there _ ih => exact List.cons_lt_cons_iff.mpr (Or.inr ⟨rfl, ih⟩)

theorem below_ofNat {a b : Nat} {xs ys : List UInt8} (small : b < 256)
    (less : a < b ∨ a = b ∧ Below xs ys) :
    Below (UInt8.ofNat a :: xs) (UInt8.ofNat b :: ys) := by
  cases less with
  | inl less => exact .here ((UInt8.ofNat_lt_iff_lt (less.trans small) small).mpr less)
  | inr same =>
      rw [same.1]
      exact .there same.2

theorem below_continuation {d e : Nat} {xs ys : List UInt8} (small : e < 64)
    (less : d < e ∨ d = e ∧ Below xs ys) :
    Below (continuation d :: xs) (continuation e :: ys) := by
  apply below_ofNat (by omega)
  cases less with
  | inl less => exact Or.inl (Nat.add_lt_add_right less _)
  | inr same => exact Or.inr ⟨congrArg (· + 0x80) same.1, same.2⟩

section

variable {n m : Nat} (less : n < m)

include less

theorem below_two (short : m ≤ 0x7FF) :
    Below (UInt8.ofNat (n / 64 % 32 + 0xC0) :: [n % 64].map continuation)
      (UInt8.ofNat (m / 64 % 32 + 0xC0) :: [m % 64].map continuation) := by
  apply below_ofNat (by omega)
  by_cases lead : n / 64 % 32 < m / 64 % 32
  · exact Or.inl (Nat.add_lt_add_right lead _)
  · refine Or.inr ⟨by omega, below_continuation (Nat.mod_lt m (by decide)) (Or.inl ?_)⟩
    omega

theorem below_three (short : m ≤ 0xFFFF) :
    Below (UInt8.ofNat (n / 4096 % 16 + 0xE0) :: [n / 64 % 64, n % 64].map continuation)
      (UInt8.ofNat (m / 4096 % 16 + 0xE0) :: [m / 64 % 64, m % 64].map continuation) := by
  apply below_ofNat (by omega)
  by_cases lead : n / 4096 % 16 < m / 4096 % 16
  · exact Or.inl (Nat.add_lt_add_right lead _)
  · refine Or.inr ⟨by omega, below_continuation (Nat.mod_lt _ (by decide)) ?_⟩
    by_cases second : n / 64 % 64 < m / 64 % 64
    · exact Or.inl second
    · refine Or.inr ⟨by omega, below_continuation (Nat.mod_lt m (by decide)) (Or.inl ?_)⟩
      omega

theorem below_four (short : m < 0x110000) :
    Below
      (UInt8.ofNat (n / 262144 % 8 + 0xF0) :: [n / 4096 % 64, n / 64 % 64, n % 64].map continuation)
      (UInt8.ofNat (m / 262144 % 8 + 0xF0)
        :: [m / 4096 % 64, m / 64 % 64, m % 64].map continuation) := by
  apply below_ofNat (by omega)
  by_cases lead : n / 262144 % 8 < m / 262144 % 8
  · exact Or.inl (Nat.add_lt_add_right lead _)
  · refine Or.inr ⟨by omega, below_continuation (Nat.mod_lt _ (by decide)) ?_⟩
    by_cases second : n / 4096 % 64 < m / 4096 % 64
    · exact Or.inl second
    · refine Or.inr ⟨by omega, below_continuation (Nat.mod_lt _ (by decide)) ?_⟩
      by_cases third : n / 64 % 64 < m / 64 % 64
      · exact Or.inl third
      · refine Or.inr ⟨by omega, below_continuation (Nat.mod_lt m (by decide)) (Or.inl ?_)⟩
        -- Place by place, since the places of a number are divisions that nest.
        have sameLead : n / 262144 = m / 262144 := by omega
        have sameSecond : n / 4096 = m / 4096 := by omega
        have sameThird : n / 64 = m / 64 := by omega
        omega

/-- What takes more bytes starts with a greater one. -/
theorem below_encodeNumber (scalar : m < 0x110000) : Below (encodeNumber n) (encodeNumber m) := by
  unfold encodeNumber
  split
  · split
    · exact below_ofNat (by omega) (Or.inl less)
    · split
      · exact below_ofNat (by omega) (Or.inl (by omega))
      · split <;> exact below_ofNat (by omega) (Or.inl (by omega))
  · rw [if_neg (show ¬ m ≤ 0x7F by omega)]
    split
    · split
      · exact below_two less ‹_›
      · split <;> exact below_ofNat (by omega) (Or.inl (by omega))
    · rw [if_neg (show ¬ m ≤ 0x7FF by omega)]
      split
      · split
        · exact below_three less ‹_›
        · exact below_ofNat (by omega) (Or.inl (by omega))
      · rw [if_neg (show ¬ m ≤ 0xFFFF by omega)]
        exact below_four less scalar

end

theorem encodeChars_lt {chars others : List Char} (less : chars < others) :
    encodeChars chars < encodeChars others := by
  induction chars generalizing others with
  | nil =>
      cases others with
      | nil => exact absurd less (List.lt_irrefl [])
      | cons d rest =>
          obtain ⟨byte, bytes, eq⟩ :=
            List.exists_cons_of_ne_nil (encodeChars_ne_nil (List.cons_ne_nil d rest))
          rw [eq]
          exact List.nil_lt_cons byte bytes
  | cons c chars ih =>
      cases others with
      | nil => exact absurd less (List.not_lt_nil _)
      | cons d rest =>
          rw [encodeChars, encodeChars, List.flatMap_cons, List.flatMap_cons]
          cases List.cons_lt_cons_iff.mp less with
          | inl lessHere =>
              rw [utf8EncodeChar_eq, utf8EncodeChar_eq]
              have scalar : d.toNat < 0x110000 := by
                cases d.valid with
                | inl low => exact Nat.lt_trans low (by decide)
                | inr high => exact high.2
              exact (below_encodeNumber (Char.lt_def.mp lessHere) scalar).append_lt _ _
          | inr lessLater =>
              rw [lessLater.1]
              exact List.append_left_lt (ih lessLater.2)

theorem encode_lt_iff {text other : String} : encode text < encode other ↔ text < other := by
  have lt_of_lt {text other : String} (less : text < other) : encode text < encode other := by
    rw [encode_eq, encode_eq]
    exact encodeChars_lt less
  constructor
  · intro less
    rcases lt_trichotomy text other with first | same | last
    · exact first
    · rw [same] at less
      exact absurd less (List.lt_irrefl _)
    · exact absurd (lt_of_lt last) (List.lt_asymm less)
  · exact lt_of_lt

theorem encode_le_iff {text other : String} : encode text ≤ encode other ↔ text ≤ other := by
  rw [← List.not_lt, encode_lt_iff, not_lt]

end LanguageDetection.Text.Utf8
