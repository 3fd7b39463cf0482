import LanguageDetection.Text.Case
import LanguageDetection.Proofs.Text.Trim

/-!
Lower case: a text in lower case stays as it is when it is put in lower case again, and what has no
case (white space, dots and the separators of paths) is neither lost nor made by lower case.
-/

namespace LanguageDetection.Unicode.Table.CaseRun

def lowered (run : CaseRun) (n : Nat) : Nat :=
  (n + run.shift).toNat

/-- Whether no letter of the run becomes a number between `first` and `last`. If both proceed by
steps of two, it is enough that they never meet. -/
def avoids (run : CaseRun) (first last step : Nat) : Bool :=
  Nat.blt last (run.lowered run.first) || Nat.blt (run.lowered run.last) first
    || (step == 2 && (run.step == 2 || run.first == run.last)
      && (run.lowered run.first + first) % 2 == 1)

def isSound (run : CaseRun) : Bool :=
  decide (0 ≤ (run.first : Int) + run.shift) && run.avoids 0xD800 0xDFFF 1
    && Nat.blt (run.lowered run.last) 0x110000

structure Contains (run : CaseRun) (n : Nat) : Prop where
  first_le : run.first ≤ n
  le_last : n ≤ run.last
  step_dvd : (n - run.first) % run.step = 0

theorem not_mem_of_avoids {run : CaseRun} {n first last step : Nat} (sound : run.isSound = true)
    (letter : run.Contains n) (avoids : run.avoids first last step = true) :
    ¬ (first ≤ run.lowered n ∧ run.lowered n ≤ last ∧ (run.lowered n - first) % step = 0) := by
  obtain ⟨firstLe, leLast, stepDvd⟩ := letter
  simp only [isSound, Bool.and_eq_true, decide_eq_true_eq] at sound
  have nonnegative := sound.1.1
  simp only [CaseRun.avoids, lowered, Bool.or_eq_true, Bool.and_eq_true, Nat.blt_eq, beq_iff_eq]
    at avoids
  simp only [lowered]
  rintro ⟨_, _, onStep⟩
  rcases avoids with (below | above) | ⟨⟨rfl, even | single⟩, odd⟩
  · omega
  · omega
  · rw [even] at stepDvd
    omega
  · omega

theorem isValidChar_lowered {run : CaseRun} {n : Nat} (sound : run.isSound = true)
    (letter : run.Contains n) : (run.lowered n).isValidChar := by
  have checks := sound
  simp only [isSound, Bool.and_eq_true, decide_eq_true_eq, Nat.blt_eq] at checks
  have noSurrogate := not_mem_of_avoids sound letter checks.1.2
  have leLast := letter.le_last
  obtain ⟨⟨nonnegative, _⟩, bound⟩ := checks
  simp only [lowered, Nat.mod_one, and_true] at noSurrogate bound ⊢
  unfold Nat.isValidChar
  omega

end LanguageDetection.Unicode.Table.CaseRun

namespace LanguageDetection.Text

open LanguageDetection.Unicode
open LanguageDetection.Unicode.Table (CaseRun caseRuns)

/-- What has no case: white space, dots and the separators of paths. -/
def isCaseless (c : Char) : Bool :=
  isBlank c || c == '.' || c == '/' || c == '\\'

private def reserved : List (Nat × Nat) := [
  (9, 13), (0x20, 0x20), (0x2E, 0x2F), (0x5C, 0x5C), (0x85, 0x85), (0xA0, 0xA0), (0x130, 0x130),
  (0x3A3, 0x3A3), (0x1680, 0x1680), (0x2000, 0x200A), (0x2028, 0x2029), (0x202F, 0x202F),
  (0x205F, 0x205F), (0x3000, 0x3000)]

private theorem caseRuns_isSound : caseRuns.all CaseRun.isSound = true := by decide +kernel

/-- No lower-case form is a letter that has a lower-case form of its own. -/
private theorem caseRuns_avoid_caseRuns :
    caseRuns.all (fun run => caseRuns.all fun other =>
      run.avoids other.first other.last other.step) = true := by
  decide +kernel

private theorem caseRuns_avoid_reserved :
    caseRuns.all (fun run => reserved.all fun (first, last) => run.avoids first last 1) = true := by
  decide +kernel

private theorem reserved_not_contained :
    caseRuns.all (fun run => reserved.all fun (first, last) =>
      Nat.blt last run.first || Nat.blt run.last first
        || (run.step == 2 && first == last && (run.first + first) % 2 == 1)) = true := by
  decide +kernel

private theorem mem_of_caseRun? {n : Nat} {run : CaseRun} (found : caseRun? n = some run) :
    run ∈ caseRuns ∧ run.Contains n := by
  have holds := List.find?_some found
  simp only [Bool.and_eq_true, decide_eq_true_eq, beq_iff_eq] at holds
  exact ⟨List.mem_of_find?_eq_some found, holds.1.1, holds.1.2, holds.2⟩

private theorem caseRun?_eq_none {n : Nat} (absent : ∀ run ∈ caseRuns, ¬ run.Contains n) :
    caseRun? n = none := by
  rw [caseRun?, List.find?_eq_none]
  intro run member holds
  simp only [Bool.and_eq_true, decide_eq_true_eq, beq_iff_eq] at holds
  exact absent run member ⟨holds.1.1, holds.1.2, holds.2⟩

section Run

variable {run : CaseRun} {n : Nat} (member : run ∈ caseRuns) (letter : run.Contains n)

include member letter

private theorem caseRun?_lowered : caseRun? (run.lowered n) = none := by
  apply caseRun?_eq_none
  intro other otherMember contains
  have sound := List.all_eq_true.mp caseRuns_isSound run member
  have avoids := List.all_eq_true.mp (List.all_eq_true.mp caseRuns_avoid_caseRuns run member)
    other otherMember
  exact CaseRun.not_mem_of_avoids sound letter avoids
    ⟨contains.first_le, contains.le_last, contains.step_dvd⟩

private theorem lowered_not_reserved {interval : Nat × Nat} (isReserved : interval ∈ reserved) :
    ¬ (interval.1 ≤ run.lowered n ∧ run.lowered n ≤ interval.2) := by
  intro ⟨first, last⟩
  have sound := List.all_eq_true.mp caseRuns_isSound run member
  have avoids := List.all_eq_true.mp (List.all_eq_true.mp caseRuns_avoid_reserved run member)
    interval isReserved
  exact CaseRun.not_mem_of_avoids sound letter avoids ⟨first, last, Nat.mod_one _⟩

private theorem toNat_ofNat_lowered : (Char.ofNat (run.lowered n)).toNat = run.lowered n := by
  have sound := List.all_eq_true.mp caseRuns_isSound run member
  rw [Char.ofNat, dif_pos (CaseRun.isValidChar_lowered sound letter)]
  rfl

end Run

private theorem exists_reserved {c : Char} (caseless : isCaseless c = true) :
    ∃ interval ∈ reserved, interval.1 ≤ c.toNat ∧ c.toNat ≤ interval.2 := by
  simp only [isCaseless, isBlank, Bool.or_eq_true, Bool.and_eq_true, decide_eq_true_eq,
    beq_iff_eq] at caseless
  simp only [reserved, List.mem_cons, List.not_mem_nil, or_false, exists_eq_or_imp,
    exists_eq_left]
  rcases caseless with ((blank | rfl) | rfl) | rfl
  · omega
  · decide
  · decide
  · decide

private theorem caseRun?_of_isCaseless {c : Char} (caseless : isCaseless c = true) :
    caseRun? c.toNat = none := by
  obtain ⟨interval, isReserved, first, last⟩ := exists_reserved caseless
  apply caseRun?_eq_none
  intro run member contains
  have apart := List.all_eq_true.mp (List.all_eq_true.mp reserved_not_contained run member)
    interval isReserved
  simp only [Bool.or_eq_true, Bool.and_eq_true, Nat.blt_eq, beq_iff_eq] at apart
  obtain ⟨firstLe, leLast, stepDvd⟩ := contains
  rcases apart with (below | above) | ⟨⟨even, single⟩, odd⟩
  · omega
  · omega
  · rw [even] at stepDvd
    omega

/-- A character that lower case does not change, wherever it stands. -/
structure IsLowered (c : Char) : Prop where
  lowerChar_eq : lowerChar c = [c]
  ne_sigma : c ≠ 'Σ'

private theorem toLower_eq_self {c : Char} (absent : caseRun? c.toNat = none) :
    c.toLower = c := by
  have notCapital : ¬ (65 ≤ c.toNat ∧ c.toNat ≤ 90) := by
    rintro ⟨first, last⟩
    rw [caseRun?, List.find?_eq_none] at absent
    have notFirst := absent ⟨0x41, 0x5A, 1, 32⟩ List.mem_cons_self
    simp only [Nat.mod_one, beq_self_eq_true, Bool.and_true, Bool.and_eq_true,
      decide_eq_true_eq] at notFirst
    exact notFirst ⟨first, last⟩
  refine dif_neg ?_
  rintro ⟨first, last⟩
  exact notCapital ⟨UInt32.le_iff_toNat_le.mp first, UInt32.le_iff_toNat_le.mp last⟩

private theorem isLowered_of_caseRun? {c : Char} (absent : caseRun? c.toNat = none)
    (notDotted : c ≠ 'İ') (notSigma : c ≠ 'Σ') : IsLowered c := by
  refine ⟨?_, notSigma⟩
  rw [lowerChar]
  split
  · rw [toLower_eq_self absent]
  · rw [if_neg (by simpa using notDotted), absent]

theorem isLowered_of_isCaseless {c : Char} (caseless : isCaseless c = true) : IsLowered c := by
  apply isLowered_of_caseRun? (caseRun?_of_isCaseless caseless)
  · rintro rfl
    exact absurd caseless (by decide)
  · rintro rfl
    exact absurd caseless (by decide)

private theorem toLower_ascii : ∀ n : Fin 128,
    lowerChar (Char.ofNat n).toLower = [(Char.ofNat n).toLower] ∧ (Char.ofNat n).toLower ≠ 'Σ' ∧
      (isCaseless (Char.ofNat n).toLower = true → (Char.ofNat n).toLower = Char.ofNat n) := by
  decide

theorem isLowered_of_mem_lowerChar {c d : Char} (notSigma : c ≠ 'Σ') (member : d ∈ lowerChar c) :
    IsLowered d ∧ (isCaseless d = true → d = c) := by
  rw [lowerChar] at member
  split at member
  · rename_i ascii
    obtain ⟨lowered, ne, caseless⟩ := toLower_ascii ⟨c.toNat, ascii⟩
    rw [Char.ofNat_toNat] at lowered ne caseless
    rw [List.mem_singleton.mp member]
    exact ⟨⟨lowered, ne⟩, caseless⟩
  · rename_i beyond
    split at member
    · rcases List.mem_cons.mp member with rfl | inRest
      · exact ⟨isLowered_of_caseRun? (by decide +kernel) (by decide) (by decide),
          fun caseless => absurd caseless (by decide)⟩
      · rw [List.mem_singleton.mp inRest]
        exact ⟨isLowered_of_caseRun? (by decide +kernel) (by decide) (by decide),
          fun caseless => absurd caseless (by decide)⟩
    · rename_i notDotted
      split at member
      · rename_i run found
        -- No run leads into a run, to what is treated by itself, or to what has no case.
        obtain ⟨isRun, letter⟩ := mem_of_caseRun? found
        have toNat_eq := toNat_ofNat_lowered isRun letter
        change d ∈ [Char.ofNat (run.lowered c.toNat)] at member
        rw [← List.mem_singleton.mp member] at toNat_eq
        constructor
        · apply isLowered_of_caseRun?
          · rw [toNat_eq]
            exact caseRun?_lowered isRun letter
          · rintro rfl
            exact lowered_not_reserved isRun letter (show (0x130, 0x130) ∈ reserved by decide)
              (by rw [← toNat_eq]; decide)
          · rintro rfl
            exact lowered_not_reserved isRun letter (show (0x3A3, 0x3A3) ∈ reserved by decide)
              (by rw [← toNat_eq]; decide)
        · intro caseless
          obtain ⟨interval, isReserved, inside⟩ := exists_reserved caseless
          rw [toNat_eq] at inside
          exact absurd inside (lowered_not_reserved isRun letter isReserved)
      · rename_i absent
        rw [List.mem_singleton.mp member]
        exact ⟨isLowered_of_caseRun? absent (by simpa using notDotted) notSigma, fun _ => rfl⟩

/-- What lower case makes of one character at one place. -/
structure LowersTo (c : Char) (lowered : List Char) : Prop where
  ne_nil : lowered ≠ []
  isLowered : ∀ d ∈ lowered, IsLowered d
  eq_of_isCaseless : ∀ d ∈ lowered, isCaseless d = true → d = c
  eq_singleton : IsLowered c → lowered = [c]

private theorem lowersTo_lowerChar {c : Char} (notSigma : c ≠ 'Σ') : LowersTo c (lowerChar c) where
  ne_nil := by
    rw [lowerChar]
    split
    · exact List.cons_ne_nil _ _
    · split
      · exact List.cons_ne_nil _ _
      · split <;> exact List.cons_ne_nil _ _
  isLowered d member := (isLowered_of_mem_lowerChar notSigma member).1
  eq_of_isCaseless d member := (isLowered_of_mem_lowerChar notSigma member).2
  eq_singleton lowered := lowered.lowerChar_eq

private theorem lowersTo_sigma {d : Char} (isSigma : d = 'ς' ∨ d = 'σ') : LowersTo 'Σ' [d] where
  ne_nil := List.cons_ne_nil _ _
  isLowered e member := by
    rw [List.mem_singleton.mp member]
    rcases isSigma with rfl | rfl
    · exact isLowered_of_caseRun? (by decide +kernel) (by decide) (by decide)
    · exact isLowered_of_caseRun? (by decide +kernel) (by decide) (by decide)
  eq_of_isCaseless e member caseless := by
    rw [List.mem_singleton.mp member] at caseless
    rcases isSigma with rfl | rfl <;> exact absurd caseless (by decide)
  eq_singleton lowered := absurd rfl lowered.ne_sigma

theorem exists_lowersTo (before : List Char) (c : Char) (rest : List Char) :
    ∃ lowered, LowersTo c lowered ∧
      lowerAfter before (c :: rest) = lowered ++ lowerAfter (c :: before) rest := by
  refine ⟨_, ?_, rfl⟩
  split
  · rename_i isSigma
    obtain rfl : c = 'Σ' := by simpa using isSigma
    split
    · exact lowersTo_sigma (Or.inl rfl)
    · exact lowersTo_sigma (Or.inr rfl)
  · rename_i notSigma
    exact lowersTo_lowerChar (by simpa using notSigma)

theorem isLowered_of_mem_lowerAfter {before chars : List Char} {d : Char}
    (member : d ∈ lowerAfter before chars) : IsLowered d := by
  induction chars generalizing before with
  | nil => exact absurd member List.not_mem_nil
  | cons c rest ih =>
      obtain ⟨lowered, lowersTo, split⟩ := exists_lowersTo before c rest
      rw [split, List.mem_append] at member
      rcases member with inHead | inRest
      · exact lowersTo.isLowered d inHead
      · exact ih inRest

theorem lowerAfter_eq_self {before chars : List Char} (lowered : ∀ c ∈ chars, IsLowered c) :
    lowerAfter before chars = chars := by
  induction chars generalizing before with
  | nil => rfl
  | cons c rest ih =>
      obtain ⟨lowered', lowersTo, split⟩ := exists_lowersTo before c rest
      rw [split, lowersTo.eq_singleton (lowered c List.mem_cons_self),
        ih fun d member => lowered d (List.mem_cons_of_mem _ member)]
      rfl

@[simp] theorem lowerAfter_lowerAfter (before before' chars : List Char) :
    lowerAfter before' (lowerAfter before chars) = lowerAfter before chars :=
  lowerAfter_eq_self fun _ => isLowered_of_mem_lowerAfter

theorem mem_lowerAfter_iff {before chars : List Char} {d : Char} (caseless : isCaseless d = true) :
    d ∈ lowerAfter before chars ↔ d ∈ chars := by
  induction chars generalizing before with
  | nil => exact Iff.rfl
  | cons c rest ih =>
      obtain ⟨lowered, lowersTo, split⟩ := exists_lowersTo before c rest
      rw [split, List.mem_append, ih, List.mem_cons]
      constructor
      · rintro (inHead | inRest)
        · exact Or.inl (lowersTo.eq_of_isCaseless d inHead caseless)
        · exact Or.inr inRest
      · rintro (rfl | inRest)
        · left
          rw [lowersTo.eq_singleton (isLowered_of_isCaseless caseless)]
          exact List.mem_singleton_self d
        · exact Or.inr inRest

theorem lowerAfter_eq_nil_iff {before chars : List Char} :
    lowerAfter before chars = [] ↔ chars = [] := by
  cases chars with
  | nil => exact Iff.rfl
  | cons c rest =>
      obtain ⟨lowered, lowersTo, split⟩ := exists_lowersTo before c rest
      rw [split, List.append_eq_nil_iff]
      exact ⟨fun empty => absurd empty.1 lowersTo.ne_nil, fun empty => absurd empty (by simp)⟩

theorem lowerAfter_cons_of_isLowered {before rest : List Char} {c : Char} (lowered : IsLowered c) :
    lowerAfter before (c :: rest) = c :: lowerAfter (c :: before) rest := by
  obtain ⟨_, lowersTo, split⟩ := exists_lowersTo before c rest
  rw [split, lowersTo.eq_singleton lowered]
  rfl

theorem head?_lowerAfter {before chars : List Char} {d : Char} (caseless : isCaseless d = true)
    (head : (lowerAfter before chars).head? = some d) : chars.head? = some d := by
  cases chars with
  | nil => exact head
  | cons c rest =>
      obtain ⟨lowered, lowersTo, split⟩ := exists_lowersTo before c rest
      rw [split, List.head?_append_of_ne_nil _ lowersTo.ne_nil] at head
      rw [lowersTo.eq_of_isCaseless d (List.mem_of_mem_head? head) caseless]
      rfl

theorem getLast?_lowerAfter {before chars : List Char} {d : Char} (caseless : isCaseless d = true)
    (last : (lowerAfter before chars).getLast? = some d) : chars.getLast? = some d := by
  induction chars generalizing before with
  | nil => exact last
  | cons c rest ih =>
      obtain ⟨lowered, lowersTo, split⟩ := exists_lowersTo before c rest
      rw [split] at last
      -- The last character of all comes from this one only if none follows.
      cases rest with
      | nil =>
          change (lowered ++ []).getLast? = some d at last
          rw [List.append_nil] at last
          rw [lowersTo.eq_of_isCaseless d (List.mem_of_mem_getLast? last) caseless]
          rfl
      | cons c' rest =>
          rw [List.getLast?_append_of_ne_nil _ (by simp [lowerAfter_eq_nil_iff])] at last
          rw [List.getLast?_cons_cons]
          exact ih last

theorem IsTrimmed.lowerAfter {chars : List Char} (trimmed : IsTrimmed chars)
    (before : List Char) : IsTrimmed (lowerAfter before chars) := by
  constructor
  · intro c head
    by_contra blank
    have caseless : isCaseless c = true := by simp [isCaseless, Bool.of_not_eq_false blank]
    exact blank (trimmed.head c (head?_lowerAfter caseless head))
  · intro c last
    by_contra blank
    have caseless : isCaseless c = true := by simp [isCaseless, Bool.of_not_eq_false blank]
    exact blank (trimmed.last c (getLast?_lowerAfter caseless last))

@[simp] theorem toList_lower (text : String) : (lower text).toList = lowerAfter [] text.toList :=
  String.toList_ofList

theorem lower_lower (text : String) : lower (lower text) = lower text := by
  rw [lower, toList_lower, lowerAfter_lowerAfter]
  rfl

end LanguageDetection.Text
