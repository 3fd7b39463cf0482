import LanguageDetection.Proofs.Pattern.Matching

/-!
Searching: an expression is found in a byte string exactly if it matches some word of it. The set of
first bytes and the threads that are followed leave no match out.
-/

namespace LanguageDetection.Pattern

namespace ByteSet

theorem contains_append (a b : ByteSet) (byte : UInt8) :
    contains (a ++ b) byte = (a.contains byte || b.contains byte) :=
  List.any_append

theorem getD_table (set : ByteSet) (byte : UInt8) :
    set.table.getD byte.toNat true = set.contains byte := by
  have small : byte.toNat < 256 := byte.toNat_lt
  simp [table, Array.getD, small]

end ByteSet

namespace Regex

theorem canBeEmpty_of_matches {r : Regex} {before after : List UInt8} :
    r.Matches before [] after → r.canBeEmpty = true := by
  induction r generalizing before after with
  | empty => exact fun _ => rfl
  | byte set => simp [Matches]
  | anchor a => exact fun _ => rfl
  | cat left right ihLeft ihRight =>
      rintro ⟨first, rest, split, isLeft, isRight⟩
      obtain ⟨rfl, rfl⟩ := List.append_eq_nil_iff.mp split.symm
      exact Bool.and_eq_true_iff.mpr ⟨ihLeft isLeft, ihRight isRight⟩
  | alt left right ihLeft ihRight =>
      rintro (isLeft | isRight)
      · exact Bool.or_eq_true_iff.mpr (.inl (ihLeft isLeft))
      · exact Bool.or_eq_true_iff.mpr (.inr (ihRight isRight))
  | repeated body least most ih =>
      rintro ⟨n, enough, -, copies⟩
      apply Bool.or_eq_true_iff.mpr
      cases copies_nil_iff.mp copies with
      | inl zero => exact .inl (beq_iff_eq.mpr (Nat.le_zero.mp (zero ▸ enough)))
      | inr isEmpty => exact .inr (ih isEmpty)

theorem startSet_contains_of_matches {r : Regex} {before word after : List UInt8} {byte : UInt8} :
    r.Matches before (byte :: word) after → r.startSet.contains byte = true := by
  induction r generalizing before word after with
  | empty => simp [Matches]
  | byte set =>
      rintro ⟨byte', contained, same⟩
      obtain ⟨rfl, -⟩ := List.cons_eq_cons.mp same
      exact contained
  | anchor a => simp [Matches]
  | cat left right ihLeft ihRight =>
      intro isCat
      rw [startSet]
      cases matches_cat_cons_iff.mp isCat with
      | inl inLeft =>
          obtain ⟨first, rest, -, isLeft, -⟩ := inLeft
          split
          · rw [ByteSet.contains_append, ihLeft isLeft, Bool.true_or]
          · exact ihLeft isLeft
      | inr inRight =>
          rw [if_pos (canBeEmpty_of_matches inRight.1), ByteSet.contains_append,
            ihRight inRight.2, Bool.or_true]
  | alt left right ihLeft ihRight =>
      rintro (isLeft | isRight)
      · rw [startSet, ByteSet.contains_append, ihLeft isLeft, Bool.true_or]
      · rw [startSet, ByteSet.contains_append, ihRight isRight, Bool.or_true]
  | repeated body least most ih =>
      rintro ⟨n, -, -, copies⟩
      obtain ⟨j, -, -, first, rest, -, isFirst, -⟩ := copies_cons_iff.mp copies
      exact ih isFirst

theorem mem_insertAll {r : Regex} {known more : List Regex} :
    r ∈ insertAll known more ↔ r ∈ known ∨ r ∈ more := by
  induction more generalizing known with
  | nil => simp [insertAll]
  | cons first rest ih =>
      rw [insertAll]
      split
      · rename_i isKnown
        have isKnown : first ∈ known := List.contains_iff_mem.mp isKnown
        rw [ih, List.mem_cons]
        constructor
        · rintro (old | new)
          · exact .inl old
          · exact .inr (.inr new)
        · rintro (old | rfl | new)
          · exact .inl old
          · exact .inl isKnown
          · exact .inr new
      · rw [ih, List.mem_cons, List.mem_cons]
        tauto

theorem mem_foldl_insertAll {r : Regex} {f : Regex → List Regex} {threads known : List Regex} :
    r ∈ threads.foldl (fun known thread => insertAll known (f thread)) known ↔
      r ∈ known ∨ ∃ thread ∈ threads, r ∈ f thread := by
  induction threads generalizing known with
  | nil => simp
  | cons thread rest ih => simp [ih, mem_insertAll, or_assoc]

/-- Whether some word that starts at a place is matched. -/
def StartsAt (r : Regex) (before bytes : List UInt8) : Prop :=
  ∃ word after, bytes = word ++ after ∧ r.Matches before word after

/-- Whether some word that starts at a place or later is matched. -/
def OccursFrom (r : Regex) (before bytes : List UInt8) : Prop :=
  ∃ skipped rest, bytes = skipped ++ rest ∧ r.StartsAt (skipped.reverse ++ before) rest

def OccursIn (r : Regex) (bytes : List UInt8) : Prop :=
  ∃ before word after, bytes = before ++ word ++ after ∧ r.Matches before.reverse word after

section

variable {r : Regex} {before bytes : List UInt8} {byte : UInt8}

theorem startsAt_nil_iff (proper : r.isProper = true) :
    r.StartsAt before [] ↔ r.emptyAt before [] = true := by
  rw [emptyAt_iff proper]
  constructor
  · rintro ⟨word, after, split, isMatch⟩
    obtain ⟨rfl, rfl⟩ := List.append_eq_nil_iff.mp split.symm
    exact isMatch
  · exact fun isMatch => ⟨[], [], rfl, isMatch⟩

theorem startsAt_cons_iff (proper : r.isProper = true) :
    r.StartsAt before (byte :: bytes) ↔ r.emptyAt before (byte :: bytes) = true ∨
      ∃ r' ∈ r.remainders before byte bytes, r'.StartsAt (byte :: before) bytes := by
  rw [emptyAt_iff proper]
  constructor
  · rintro ⟨word, after, split, isMatch⟩
    cases word with
    | nil =>
        obtain rfl : byte :: bytes = after := split
        exact .inl isMatch
    | cons byte' word =>
        obtain ⟨rfl, tail⟩ := List.cons_eq_cons.mp split
        obtain ⟨r', member, reads⟩ := (exists_remainders_iff proper tail).mpr isMatch
        exact .inr ⟨r', member, word, after, tail, reads⟩
  · rintro (isMatch | ⟨r', member, word, after, tail, reads⟩)
    · exact ⟨[], byte :: bytes, rfl, isMatch⟩
    · exact ⟨byte :: word, after, by rw [tail]; rfl,
        (exists_remainders_iff proper tail).mp ⟨r', member, reads⟩⟩

theorem occursFrom_nil_iff : r.OccursFrom before [] ↔ r.StartsAt before [] := by
  constructor
  · rintro ⟨skipped, rest, split, starts⟩
    obtain ⟨rfl, rfl⟩ := List.append_eq_nil_iff.mp split.symm
    exact starts
  · exact fun starts => ⟨[], [], rfl, starts⟩

theorem occursFrom_cons_iff :
    r.OccursFrom before (byte :: bytes) ↔
      r.StartsAt before (byte :: bytes) ∨ r.OccursFrom (byte :: before) bytes := by
  constructor
  · rintro ⟨skipped, rest, split, starts⟩
    cases skipped with
    | nil =>
        obtain rfl : byte :: bytes = rest := split
        exact .inl starts
    | cons byte' skipped =>
        obtain ⟨rfl, tail⟩ := List.cons_eq_cons.mp split
        exact .inr ⟨skipped, rest, tail, by simpa using starts⟩
  · rintro (starts | ⟨skipped, rest, tail, starts⟩)
    · exact ⟨[], byte :: bytes, rfl, starts⟩
    · exact ⟨byte :: skipped, rest, by rw [tail]; rfl, by simpa using starts⟩

theorem occursIn_iff : r.OccursIn bytes ↔ r.OccursFrom [] bytes := by
  constructor
  · rintro ⟨before, word, after, split, isMatch⟩
    refine ⟨before, word ++ after, by rw [split, List.append_assoc], word, after, rfl, ?_⟩
    rwa [List.append_nil]
  · rintro ⟨skipped, rest, split, word, after, split', isMatch⟩
    refine ⟨skipped, word, after, by rw [split, split', List.append_assoc], ?_⟩
    rwa [List.append_nil] at isMatch

end

end Regex

namespace Searcher

variable {r : Regex}

theorem canStart_ofRegex (r : Regex) (byte : UInt8) :
    (ofRegex r).canStart byte = (r.canBeEmpty || r.startSet.contains byte) := by
  simp only [canStart, ofRegex, ByteSet.getD_table]

theorem canStart_of_startsAt {before bytes : List UInt8} {byte : UInt8}
    (starts : r.StartsAt before (byte :: bytes)) : (ofRegex r).canStart byte = true := by
  obtain ⟨word, after, split, isMatch⟩ := starts
  rw [canStart_ofRegex]
  cases word with
  | nil => rw [Regex.canBeEmpty_of_matches isMatch, Bool.true_or]
  | cons byte' word =>
      obtain ⟨rfl, -⟩ := List.cons_eq_cons.mp split
      rw [Regex.startSet_contains_of_matches isMatch, Bool.or_true]

def threadsAt (r : Regex) (live : List Regex) (byte : UInt8) : List Regex :=
  if (ofRegex r).canStart byte then Regex.insertAll live [r] else live

def followers (threads : List Regex) (before bytes : List UInt8) (byte : UInt8) : List Regex :=
  threads.foldl (fun known thread => Regex.insertAll known (thread.remainders before byte bytes)) []

theorem searchFrom_cons (live : List Regex) (before bytes : List UInt8) (byte : UInt8) :
    (ofRegex r).searchFrom live before (byte :: bytes) =
      ((threadsAt r live byte).any (·.emptyAt before (byte :: bytes)) ||
        (ofRegex r).searchFrom (followers (threadsAt r live byte) before bytes byte)
          (byte :: before) bytes) := by
  conv_lhs => unfold searchFrom
  split
  · rename_i cannot
    simp [threadsAt, followers, cannot]
  · change (if _ then true else _) = _
    rw [Bool.if_true_left, Bool.decide_eq_true]
    rfl

theorem mem_threadsAt {live : List Regex} {thread : Regex} {byte : UInt8} :
    thread ∈ threadsAt r live byte ↔
      thread ∈ live ∨ ((ofRegex r).canStart byte = true ∧ thread = r) := by
  rw [threadsAt]
  split
  · rename_i canStart
    simp [Regex.mem_insertAll, canStart]
  · rename_i cannot
    simp [cannot]

theorem mem_followers {threads : List Regex} {before bytes : List UInt8} {byte : UInt8}
    {thread : Regex} :
    thread ∈ followers threads before bytes byte ↔
      ∃ t ∈ threads, thread ∈ t.remainders before byte bytes := by
  rw [followers, Regex.mem_foldl_insertAll]
  simp

theorem exists_threadsAt_iff {live : List Regex} {before bytes : List UInt8} {byte : UInt8} :
    (∃ thread ∈ threadsAt r live byte, thread.StartsAt before (byte :: bytes)) ↔
      (∃ thread ∈ live, thread.StartsAt before (byte :: bytes)) ∨
        r.StartsAt before (byte :: bytes) := by
  simp only [mem_threadsAt]
  constructor
  · rintro ⟨thread, isLive | ⟨-, rfl⟩, starts⟩
    · exact .inl ⟨thread, isLive, starts⟩
    · exact .inr starts
  · rintro (⟨thread, isLive, starts⟩ | starts)
    · exact ⟨thread, .inl isLive, starts⟩
    · exact ⟨r, .inr ⟨canStart_of_startsAt starts, rfl⟩, starts⟩

/-- The threads that are live at a place, and the expression itself from there on. -/
theorem searchFrom_iff (proper : r.isProper = true) {live : List Regex}
    (liveProper : ∀ thread ∈ live, thread.isProper = true) {before bytes : List UInt8} :
    (ofRegex r).searchFrom live before bytes = true ↔
      (∃ thread ∈ live, thread.StartsAt before bytes) ∨ r.OccursFrom before bytes := by
  -- On the bytes that are left, for all threads that may be live at once.
  induction bytes generalizing live before with
  | nil =>
      have isEmpty : ∀ thread ∈ live,
          (thread.emptyAt before [] = true ↔ thread.StartsAt before []) :=
        fun thread member => (Regex.startsAt_nil_iff (liveProper thread member)).symm
      have any_iff : (∃ thread ∈ live, thread.emptyAt before [] = true) ↔
          ∃ thread ∈ live, thread.StartsAt before [] :=
        exists_congr fun thread => and_congr_right (isEmpty thread)
      rw [searchFrom, List.any_cons, Bool.or_eq_true, List.any_eq_true, any_iff, or_comm,
        Regex.occursFrom_nil_iff, Regex.startsAt_nil_iff proper]
      rfl
  | cons byte bytes ih =>
      have threadsProper : ∀ thread ∈ threadsAt r live byte, thread.isProper = true := by
        intro thread member
        cases mem_threadsAt.mp member with
        | inl isLive => exact liveProper thread isLive
        | inr isStart => exact isStart.2 ▸ proper
      have nextProper : ∀ thread ∈ followers (threadsAt r live byte) before bytes byte,
          thread.isProper = true := by
        intro thread member
        obtain ⟨t, isThread, remains⟩ := mem_followers.mp member
        exact Regex.isProper_remainders (threadsProper t isThread) thread remains
      have starts_iff : (∃ thread ∈ threadsAt r live byte, thread.StartsAt before (byte :: bytes)) ↔
          (∃ thread ∈ threadsAt r live byte, thread.emptyAt before (byte :: bytes) = true) ∨
            ∃ thread ∈ followers (threadsAt r live byte) before bytes byte,
              thread.StartsAt (byte :: before) bytes := by
        simp only [mem_followers]
        constructor
        · rintro ⟨thread, member, starts⟩
          cases (Regex.startsAt_cons_iff (threadsProper thread member)).mp starts with
          | inl ends => exact .inl ⟨thread, member, ends⟩
          | inr goesOn =>
              obtain ⟨r', remains, starts⟩ := goesOn
              exact .inr ⟨r', ⟨thread, member, remains⟩, starts⟩
        · rintro (⟨thread, member, ends⟩ | ⟨r', ⟨thread, member, remains⟩, starts⟩)
          · exact ⟨thread, member,
              (Regex.startsAt_cons_iff (threadsProper thread member)).mpr (.inl ends)⟩
          · exact ⟨thread, member, (Regex.startsAt_cons_iff (threadsProper thread member)).mpr
              (.inr ⟨r', remains, starts⟩)⟩
      rw [searchFrom_cons, Bool.or_eq_true, List.any_eq_true, ih nextProper, ← or_assoc,
        ← starts_iff, exists_threadsAt_iff, or_assoc, ← Regex.occursFrom_cons_iff]

/-- The search finds an expression exactly where it occurs. -/
theorem search_iff (proper : r.isProper = true) (bytes : List UInt8) :
    (ofRegex r).search bytes = true ↔ r.OccursIn bytes := by
  have found : (ofRegex r).searchFrom [] [] bytes = true ↔ r.OccursIn bytes := by
    rw [searchFrom_iff proper (List.forall_mem_nil _), Regex.occursIn_iff]
    simp
  rw [search, Bool.and_eq_true, found, and_iff_right_iff_imp]
  rintro ⟨before, word, after, split, isMatch⟩
  apply Bool.or_eq_true_iff.mpr
  cases word with
  | nil => exact .inl (Regex.canBeEmpty_of_matches isMatch)
  | cons byte word =>
      refine .inr (List.any_eq_true.mpr ⟨byte, ?_, canStart_of_startsAt ⟨_, after, rfl, isMatch⟩⟩)
      rw [split]
      simp

end Searcher

end LanguageDetection.Pattern
