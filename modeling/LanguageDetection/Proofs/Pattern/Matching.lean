import LanguageDetection.Pattern.Regex
import Mathlib

/-!
What regular expressions match: the words between a place and what follows it. The bytes read off an
expression one at a time, by what remains to be matched, are the words it matches.
-/

namespace LanguageDetection.Pattern.Regex

/-- So many words one after another, each matched where it stands. -/
def Copies (holds : List UInt8 → List UInt8 → List UInt8 → Prop) :
    Nat → List UInt8 → List UInt8 → List UInt8 → Prop
  | 0, _, word, _ => word = []
  | n + 1, before, word, after => ∃ first rest, word = first ++ rest ∧
      holds before first (rest ++ after) ∧ Copies holds n (first.reverse ++ before) rest after

/-- The word that stands between what comes before it, nearest first, and what comes after it. -/
def Matches : Regex → List UInt8 → List UInt8 → List UInt8 → Prop
  | .empty, _, word, _ => word = []
  | .byte set, _, word, _ => ∃ byte, set.contains byte = true ∧ word = [byte]
  | .anchor a, before, word, after => word = [] ∧ a.holds before after = true
  | .cat left right, before, word, after => ∃ first rest, word = first ++ rest ∧
      left.Matches before first (rest ++ after) ∧ right.Matches (first.reverse ++ before) rest after
  | .alt left right, before, word, after =>
      left.Matches before word after ∨ right.Matches before word after
  | .repeated body least most, before, word, after => ∃ n, least ≤ n ∧ (∀ m ∈ most, n ≤ m) ∧
      Copies body.Matches n before word after

/-- Whether every repetition may be repeated as often as it has to be. -/
def isProper : Regex → Bool
  | .cat left right => left.isProper && right.isProper
  | .alt left right => left.isProper && right.isProper
  | .repeated body least most => body.isProper && most.all (least ≤ ·)
  | _ => true

section

variable {holds : List UInt8 → List UInt8 → List UInt8 → Prop} {before after word : List UInt8}
  {byte : UInt8} {n : Nat}

theorem copies_nil_iff : Copies holds n before [] after ↔ n = 0 ∨ holds before [] after := by
  induction n with
  | zero => simp [Copies]
  | succ n ih =>
      constructor
      · rintro ⟨first, rest, split, isFirst, -⟩
        obtain ⟨rfl, rfl⟩ := List.append_eq_nil_iff.mp split.symm
        exact .inr isFirst
      · rintro (zero | isEmpty)
        · contradiction
        · exact ⟨[], [], rfl, isEmpty, ih.mpr (.inr isEmpty)⟩

theorem copies_cons_iff :
    Copies holds n before (byte :: word) after ↔
      ∃ j < n, (j + 1 = n ∨ holds before [] (byte :: word ++ after)) ∧
        ∃ first rest, word = first ++ rest ∧ holds before (byte :: first) (rest ++ after) ∧
          Copies holds j (first.reverse ++ byte :: before) rest after := by
  -- The byte belongs to the first copy that is not empty; j copies come behind that one.
  induction n with
  | zero =>
      constructor
      · intro copies
        contradiction
      · rintro ⟨j, less, -⟩
        contradiction
  | succ n ih =>
      constructor
      · rintro ⟨first, rest, split, isFirst, others⟩
        cases first with
        | nil =>
            obtain rfl : byte :: word = rest := split
            obtain ⟨j, less, -, found⟩ := ih.mp others
            exact ⟨j, less.trans (Nat.lt_succ_self n), .inr isFirst, found⟩
        | cons byte' first =>
            obtain ⟨rfl, tail⟩ := List.cons_eq_cons.mp split
            refine ⟨n, Nat.lt_succ_self n, .inl rfl, first, rest, tail, isFirst, ?_⟩
            simpa using others
      · rintro ⟨j, less, last | isEmpty, first, rest, split, isFirst, others⟩
        · obtain rfl := Nat.succ.inj last
          refine ⟨byte :: first, rest, by rw [split]; rfl, isFirst, ?_⟩
          simpa using others
        · by_cases last : j = n
          · subst last
            refine ⟨byte :: first, rest, by rw [split]; rfl, isFirst, ?_⟩
            simpa using others
          · have fewer : j < n := by omega
            refine ⟨[], byte :: word, rfl, isEmpty, ?_⟩
            exact ih.mpr ⟨j, fewer, .inr isEmpty, first, rest, split, isFirst, others⟩

end

theorem emptyAt_iff {r : Regex} (proper : r.isProper = true) {before after : List UInt8} :
    r.emptyAt before after = true ↔ r.Matches before [] after := by
  induction r with
  | empty => simp [emptyAt, Matches]
  | byte set => simp [emptyAt, Matches]
  | anchor a => simp [emptyAt, Matches]
  | cat left right ihLeft ihRight =>
      obtain ⟨leftProper, rightProper⟩ := Bool.and_eq_true_iff.mp proper
      rw [emptyAt, Bool.and_eq_true, ihLeft leftProper, ihRight rightProper]
      constructor
      · rintro ⟨isLeft, isRight⟩
        exact ⟨[], [], rfl, isLeft, isRight⟩
      · rintro ⟨first, rest, split, isLeft, isRight⟩
        obtain ⟨rfl, rfl⟩ := List.append_eq_nil_iff.mp split.symm
        exact ⟨isLeft, isRight⟩
  | alt left right ihLeft ihRight =>
      obtain ⟨leftProper, rightProper⟩ := Bool.and_eq_true_iff.mp proper
      rw [emptyAt, Bool.or_eq_true, ihLeft leftProper, ihRight rightProper]
      rfl
  | repeated body least most ih =>
      obtain ⟨bodyProper, bounded⟩ := Bool.and_eq_true_iff.mp proper
      have bounded : ∀ m ∈ most, least ≤ m := by
        simpa [Option.all_eq_true] using bounded
      rw [emptyAt, Bool.or_eq_true, beq_iff_eq, ih bodyProper]
      simp only [Matches, copies_nil_iff]
      constructor
      · rintro (zero | isEmpty)
        · exact ⟨0, zero.le, fun m _ => Nat.zero_le m, .inl rfl⟩
        · exact ⟨least, le_rfl, bounded, .inr isEmpty⟩
      · rintro ⟨n, enough, -, zero | isEmpty⟩
        · exact .inl (Nat.le_zero.mp (zero ▸ enough))
        · exact .inr isEmpty

theorem matches_andThen {left right : Regex} {before word after : List UInt8} :
    (left.andThen right).Matches before word after ↔ (cat left right).Matches before word after := by
  cases left with
  | empty => simp [andThen, Matches]
  | _ => rfl

theorem isProper_andThen {left right : Regex} (leftProper : left.isProper = true)
    (rightProper : right.isProper = true) : (left.andThen right).isProper = true := by
  cases left with
  | empty => exact rightProper
  | _ => exact Bool.and_eq_true_iff.mpr ⟨leftProper, rightProper⟩

theorem isProper_remainders {r : Regex} (proper : r.isProper = true) {before rest : List UInt8}
    {byte : UInt8} : ∀ r' ∈ r.remainders before byte rest, r'.isProper = true := by
  induction r with
  | empty => exact List.forall_mem_nil _
  | byte set =>
      intro r' member
      rw [remainders] at member
      split at member
      · rw [List.mem_singleton.mp member]
        rfl
      · contradiction
  | anchor a => exact List.forall_mem_nil _
  | cat left right ihLeft ihRight =>
      obtain ⟨leftProper, rightProper⟩ := Bool.and_eq_true_iff.mp proper
      have through : ∀ r' ∈ (left.remainders before byte rest).map (·.andThen right),
          r'.isProper = true :=
        List.forall_mem_map.mpr fun r' member => isProper_andThen (ihLeft leftProper r' member)
          rightProper
      rw [remainders]
      split
      · exact List.forall_mem_append.mpr ⟨through, ihRight rightProper⟩
      · exact through
  | alt left right ihLeft ihRight =>
      obtain ⟨leftProper, rightProper⟩ := Bool.and_eq_true_iff.mp proper
      exact List.forall_mem_append.mpr ⟨ihLeft leftProper, ihRight rightProper⟩
  | repeated body least most ih =>
      obtain ⟨bodyProper, bounded⟩ := Bool.and_eq_true_iff.mp proper
      rw [remainders]
      split
      · exact List.forall_mem_nil _
      · refine List.forall_mem_map.mpr fun r' member => ?_
        refine isProper_andThen (ih bodyProper r' member) (Bool.and_eq_true_iff.mpr ⟨bodyProper, ?_⟩)
        cases most with
        | none => rfl
        | some m =>
            have enough : least ≤ m := by simpa using bounded
            simp only [pred?, Option.all_some, decide_eq_true_eq]
            split <;> omega

theorem exists_map_andThen_iff {heads : List Regex} {right : Regex}
    {before word after : List UInt8} :
    (∃ r' ∈ heads.map (·.andThen right), r'.Matches before word after) ↔
      ∃ first rest, word = first ++ rest ∧
        (∃ r' ∈ heads, r'.Matches before first (rest ++ after)) ∧
        right.Matches (first.reverse ++ before) rest after := by
  simp only [List.mem_map, exists_exists_and_eq_and, matches_andThen, Matches]
  constructor
  · rintro ⟨r', member, first, rest, split, isFirst, isRest⟩
    exact ⟨first, rest, split, ⟨r', member, isFirst⟩, isRest⟩
  · rintro ⟨first, rest, split, ⟨r', member, isFirst⟩, isRest⟩
    exact ⟨r', member, first, rest, split, isFirst, isRest⟩

theorem matches_cat_cons_iff {left right : Regex} {before word after : List UInt8} {byte : UInt8} :
    (cat left right).Matches before (byte :: word) after ↔
      (∃ first rest, word = first ++ rest ∧ left.Matches before (byte :: first) (rest ++ after) ∧
        right.Matches (first.reverse ++ byte :: before) rest after) ∨
      (left.Matches before [] (byte :: word ++ after) ∧ right.Matches before (byte :: word) after) := by
  constructor
  · rintro ⟨first, rest, split, isLeft, isRight⟩
    cases first with
    | nil =>
        obtain rfl : byte :: word = rest := split
        exact .inr ⟨isLeft, isRight⟩
    | cons byte' first =>
        obtain ⟨rfl, tail⟩ := List.cons_eq_cons.mp split
        exact .inl ⟨first, rest, tail, isLeft, by simpa using isRight⟩
  · rintro (⟨first, rest, tail, isLeft, isRight⟩ | ⟨isLeft, isRight⟩)
    · exact ⟨byte :: first, rest, by rw [tail]; rfl, isLeft, by simpa using isRight⟩
    · exact ⟨[], byte :: word, rfl, isLeft, isRight⟩

/-- How many copies may follow the first that is not empty. If a copy may be empty here, any number
of empty ones can stand before it. -/
theorem exists_count_iff {least j : Nat} {most : Option Nat} {mayBeEmpty : Bool}
    (bounded : ∀ m ∈ most, least ≤ m) (someCopies : most ≠ some 0) :
    (∃ n, least ≤ n ∧ (∀ m ∈ most, n ≤ m) ∧ j < n ∧ (j + 1 = n ∨ mayBeEmpty = true)) ↔
      (if mayBeEmpty then 0 else least - 1) ≤ j ∧ ∀ m ∈ pred? most, j ≤ m := by
  have fewer : (∀ m ∈ pred? most, j ≤ m) ↔ ∀ m ∈ most, j + 1 ≤ m := by
    cases most with
    | none => simp [pred?]
    | some m =>
        have positive : m ≠ 0 := fun zero => someCopies (congrArg some zero)
        simp only [pred?, Option.mem_some_iff, forall_eq']
        omega
  rw [fewer]
  constructor
  · rintro ⟨n, enough, few, less, last⟩
    refine ⟨?_, fun m isMost => less.trans_le (few m isMost)⟩
    cases mayBeEmpty with
    | true => exact Nat.zero_le j
    | false =>
        have last : j + 1 = n := by simpa using last
        simp only [Bool.false_eq_true, if_false]
        omega
  · rintro ⟨enough, few⟩
    cases mayBeEmpty with
    | true =>
        refine ⟨max least (j + 1), le_max_left _ _, ?_, by omega, .inr rfl⟩
        exact fun m isMost => max_le (bounded m isMost) (few m isMost)
    | false =>
        simp only [Bool.false_eq_true, if_false] at enough
        exact ⟨j + 1, by omega, few, by omega, .inl rfl⟩

/-- A repetition goes on in its first copy that is not empty, if the remainders of the body are the
rest of that copy. -/
theorem exists_remainders_repeated_iff {body : Regex} {least : Nat} {most : Option Nat}
    (proper : (repeated body least most).isProper = true) {before rest word after : List UInt8}
    {byte : UInt8} (same : rest = word ++ after)
    (isFirst : ∀ first others, word = first ++ others →
      ((∃ r' ∈ body.remainders before byte rest,
          r'.Matches (byte :: before) first (others ++ after)) ↔
        body.Matches before (byte :: first) (others ++ after))) :
    (∃ r' ∈ (repeated body least most).remainders before byte rest,
        r'.Matches (byte :: before) word after) ↔
      (repeated body least most).Matches before (byte :: word) after := by
  obtain ⟨bodyProper, bounded⟩ := Bool.and_eq_true_iff.mp proper
  have bounded : ∀ m ∈ most, least ≤ m := by simpa [Option.all_eq_true] using bounded
  simp only [Matches, copies_cons_iff, List.cons_append, ← same, ← emptyAt_iff bodyProper]
  rw [remainders]
  split
  · rename_i noCopies
    obtain rfl := beq_iff_eq.mp noCopies
    constructor
    · rintro ⟨r', member, -⟩
      contradiction
    · rintro ⟨n, -, few, j, less, -⟩
      have none := few 0 rfl
      omega
  · rename_i someCopies
    have someCopies : most ≠ some 0 := by simpa using someCopies
    rw [exists_map_andThen_iff]
    constructor
    · rintro ⟨first, others, split, reads, j, enough, few, copies⟩
      obtain ⟨n, enough, few, less, last⟩ :=
        (exists_count_iff bounded someCopies).mpr ⟨enough, few⟩
      exact ⟨n, enough, few, j, less, last, first, others, split,
        (isFirst first others split).mp reads, copies⟩
    · rintro ⟨n, enough, few, j, less, last, first, others, split, reads, copies⟩
      obtain ⟨enough, few⟩ :=
        (exists_count_iff bounded someCopies).mp ⟨n, enough, few, less, last⟩
      exact ⟨first, others, split, (isFirst first others split).mpr reads, j, enough, few, copies⟩

/-- The words that start with a byte are what its remainders match after it. -/
theorem exists_remainders_iff {r : Regex} (proper : r.isProper = true) {before rest : List UInt8}
    {byte : UInt8} : ∀ {word after : List UInt8}, rest = word ++ after →
      ((∃ r' ∈ r.remainders before byte rest, r'.Matches (byte :: before) word after) ↔
        r.Matches before (byte :: word) after) := by
  -- A part of the word ends earlier than the word, so the split of what is left must be free.
  induction r with
  | empty => simp [remainders, Matches]
  | byte set =>
      intro word after same
      by_cases contained : set.contains byte
      · simp [remainders, contained, Matches]
      · simp [remainders, contained, Matches]
  | anchor a => simp [remainders, Matches]
  | cat left right ihLeft ihRight =>
      obtain ⟨leftProper, rightProper⟩ := Bool.and_eq_true_iff.mp proper
      intro word after same
      have through : (∃ r' ∈ (left.remainders before byte rest).map (·.andThen right),
          r'.Matches (byte :: before) word after) ↔ ∃ first others, word = first ++ others ∧
            left.Matches before (byte :: first) (others ++ after) ∧
            right.Matches (first.reverse ++ byte :: before) others after := by
        rw [exists_map_andThen_iff]
        refine exists_congr fun first => exists_congr fun others => and_congr_right fun split => ?_
        rw [ihLeft leftProper (by rw [same, split, List.append_assoc])]
      rw [matches_cat_cons_iff, remainders, ← through, List.cons_append, ← same,
        ← emptyAt_iff leftProper, ← ihRight rightProper same]
      split
      · rename_i isEmpty
        simp only [List.mem_append, or_and_right, exists_or, isEmpty, true_and]
      · rename_i notEmpty
        simp only [notEmpty, false_and, or_false, Bool.false_eq_true]
  | alt left right ihLeft ihRight =>
      obtain ⟨leftProper, rightProper⟩ := Bool.and_eq_true_iff.mp proper
      intro word after same
      simp only [remainders, List.mem_append, or_and_right, exists_or, Matches,
        ihLeft leftProper same, ihRight rightProper same]
  | repeated body least most ih =>
      obtain ⟨bodyProper, -⟩ := Bool.and_eq_true_iff.mp proper
      intro word after same
      apply exists_remainders_repeated_iff proper same
      intro first others split
      exact ih bodyProper (by rw [same, split, List.append_assoc])

end LanguageDetection.Pattern.Regex
