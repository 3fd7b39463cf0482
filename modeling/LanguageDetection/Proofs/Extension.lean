import LanguageDetection.Extension
import LanguageDetection.Proofs.Text.Neighbours

/-!
The kept form of extensions: when there is one, what it is made of, and that it is its own kept form.
-/

namespace LanguageDetection.Extension

open LanguageDetection.Text

def withoutDot : List Char → List Char
  | '.' :: rest => rest
  | chars => chars

/-- An extension without white space around it and without a dot in front. -/
def bare (raw : String) : List Char :=
  withoutDot (trimChars raw.toList)

/-- Whether nothing is left of an extension, or a dot or a separator is. -/
def isMalformed (raw : String) : Bool :=
  (bare raw).isEmpty || (bare raw).any fun c => c == '.' || isSeparator c

structure IsKey (extension : String) : Prop where
  toList_eq : ∃ rest, extension.toList = '.' :: rest ∧ rest ≠ [] ∧
    ∀ c ∈ rest, c ≠ '.' ∧ c ≠ '/' ∧ c ≠ '\\'
  normalize?_eq : normalize? extension = some extension

theorem withoutDot_eq_nil_iff (chars : List Char) :
    withoutDot chars = [] ↔ chars = [] ∨ chars = ['.'] := by
  unfold withoutDot
  split
  · simp
  · rename_i noDot
    constructor
    · exact Or.inl
    · rintro (rfl | rfl)
      · rfl
      · exact absurd rfl (noDot [])

private theorem isEmpty_or_dot_iff (raw : String) :
    ((trim raw).isEmpty || trim raw == ".") = true ↔ bare raw = [] := by
  rw [bare, withoutDot_eq_nil_iff, Bool.or_eq_true, String.isEmpty_iff, beq_iff_eq,
    ← String.toList_inj, ← String.toList_inj, toList_trim]
  rfl

theorem normalize?_eq_none_iff (raw : String) : normalize? raw = none ↔ bare raw = [] := by
  rw [← isEmpty_or_dot_iff, normalize?]
  split
  · rename_i empty
    simp [empty]
  · rename_i nonempty
    simp only [nonempty, iff_false, Bool.false_eq_true]
    split <;> exact Option.some_ne_none _

theorem normalize?_eq_none_iff_trim (raw : String) :
    normalize? raw = none ↔ trim raw = "" ∨ trim raw = "." := by
  rw [normalize?_eq_none_iff, ← isEmpty_or_dot_iff, Bool.or_eq_true, String.isEmpty_iff,
    beq_iff_eq]

private theorem startsWith_dot_iff (text : String) :
    text.startsWith "." = true ↔ text.toList.head? = some '.' := by
  rw [String.startsWith_string_iff]
  exact List.singleton_prefix_iff_head?_eq_some

theorem toList_of_normalize?_eq_some {raw extension : String}
    (kept : normalize? raw = some extension) :
    bare raw ≠ [] ∧ extension.toList = '.' :: lowerAfter [] (bare raw) := by
  constructor
  · intro empty
    rw [(normalize?_eq_none_iff raw).mpr empty] at kept
    contradiction
  · rw [normalize?] at kept
    split at kept
    · contradiction
    · simp only [startsWith_dot_iff, toList_lower, toList_trim, head?_lowerAfter_eq_dot_iff] at kept
      split at kept
      · rename_i dotted
        obtain ⟨rest, split⟩ := List.head?_eq_some_iff.mp dotted
        rw [← Option.some.inj kept, toList_lower, toList_trim, bare, split, lowerAfter_dot]
        rfl
      · rename_i undotted
        have noDot : withoutDot (trimChars raw.toList) = trimChars raw.toList := by
          unfold withoutDot
          split
          · rename_i rest split
            rw [split] at undotted
            exact absurd rfl undotted
          · rfl
        rw [← Option.some.inj kept, String.toList_append, toList_lower, toList_trim, bare, noDot]
        rfl

private theorem getLast?_bare {raw : String} {c : Char} (last : c ∈ (bare raw).getLast?) :
    isBlank c = false := by
  apply (isTrimmed_trimChars raw.toList).last c
  unfold bare withoutDot at last
  split at last
  · rename_i rest split
    rw [split]
    exact List.mem_getLast?_cons last
  · exact last

theorem isTrimmed_of_normalize?_eq_some {raw extension : String}
    (kept : normalize? raw = some extension) :
    IsTrimmed extension.toList ∧ lowerAfter [] extension.toList = extension.toList := by
  obtain ⟨nonempty, split⟩ := toList_of_normalize?_eq_some kept
  have nonempty' : lowerAfter [] (bare raw) ≠ [] := by rwa [Ne, lowerAfter_eq_nil_iff]
  rw [split]
  refine ⟨⟨?_, ?_⟩, ?_⟩
  · intro c head
    rw [List.head?_cons, Option.mem_some_iff] at head
    subst head
    decide
  · intro c last
    rw [List.getLast?_cons_of_ne_nil nonempty'] at last
    by_contra blank
    have isCaseless : isCaseless c = true := by simp [isCaseless, Bool.of_not_eq_false blank]
    exact blank (getLast?_bare (getLast?_lowerAfter isCaseless last))
  · rw [lowerAfter_dot, lowerAfter_lowerAfter]

theorem normalize?_of_normalize?_eq_some {raw extension : String}
    (kept : normalize? raw = some extension) : normalize? extension = some extension := by
  obtain ⟨trimmed, lowered⟩ := isTrimmed_of_normalize?_eq_some kept
  obtain ⟨nonempty, split⟩ := toList_of_normalize?_eq_some kept
  have trim_eq : trim extension = extension := by
    rw [← String.toList_inj, toList_trim, trimmed.trimChars_eq]
  have lower_eq : lower extension = extension := by
    rw [← String.toList_inj, toList_lower, lowered]
  have bare_eq : bare extension = lowerAfter [] (bare raw) := by
    rw [bare, trimmed.trimChars_eq, split]
    rfl
  have hasMore : ¬ ((trim extension).isEmpty || trim extension == ".") = true := by
    rw [isEmpty_or_dot_iff, bare_eq, lowerAfter_eq_nil_iff]
    exact nonempty
  have dotted : extension.startsWith "." = true := by
    rw [startsWith_dot_iff, split]
    rfl
  rw [normalize?]
  simp only [hasMore, Bool.false_eq_true, if_false]
  rw [trim_eq, lower_eq, if_pos dotted]

private def isRefused (c : Char) : Bool := c == '.' || isSeparator c

private theorem any_isRefused_iff (chars : List Char) :
    chars.any isRefused = true ↔ '.' ∈ chars ∨ '/' ∈ chars ∨ '\\' ∈ chars := by
  simp only [List.any_eq_true, isRefused, isSeparator, Bool.or_eq_true, beq_iff_eq, and_or_left,
    exists_or, exists_eq_right]

/-- Lower case neither adds nor removes dots and separators. -/
theorem isWellFormed_of_normalize?_eq_some {raw extension : String}
    (kept : normalize? raw = some extension) :
    isWellFormed extension = !isMalformed raw := by
  obtain ⟨nonempty, split⟩ := toList_of_normalize?_eq_some kept
  have same : (lowerAfter [] (bare raw)).any isRefused = (bare raw).any isRefused := by
    rw [Bool.eq_iff_iff, any_isRefused_iff, any_isRefused_iff, mem_lowerAfter_iff (by decide),
      mem_lowerAfter_iff (by decide), mem_lowerAfter_iff (by decide)]
  have wellFormed : isWellFormed extension = !(lowerAfter [] (bare raw)).any isRefused := by
    have nonempty' : (lowerAfter [] (bare raw)).isEmpty = false := by
      rwa [List.isEmpty_eq_false_iff, Ne, lowerAfter_eq_nil_iff]
    rw [isWellFormed, split, List.drop_one, List.tail_cons, nonempty', List.not_any_eq_all_not]
    simp only [isRefused, Bool.not_or, Bool.not_false, Bool.true_and]
    rfl
  have malformed : isMalformed raw = (bare raw).any isRefused := by
    rw [isMalformed, List.isEmpty_eq_false_iff.mpr nonempty, Bool.false_or]
    rfl
  rw [wellFormed, same, malformed]

theorem exists_normalize?_of_isMalformed_eq_false {raw : String}
    (wellFormed : isMalformed raw = false) : ∃ extension, normalize? raw = some extension := by
  rw [← Option.isSome_iff_exists, Option.isSome_iff_ne_none]
  intro missing
  rw [isMalformed, (normalize?_eq_none_iff raw).mp missing] at wellFormed
  contradiction

theorem filter_isWellFormed (raw : String) :
    (normalize? raw).filter isWellFormed = if isMalformed raw then none else normalize? raw := by
  cases kept : normalize? raw with
  | none => simp
  | some extension =>
      rw [Option.filter_some, isWellFormed_of_normalize?_eq_some kept]
      cases isMalformed raw <;> rfl

theorem isKey_of_normalize?_eq_some {raw extension : String}
    (kept : normalize? raw = some extension) (wellFormed : isMalformed raw = false) :
    IsKey extension := by
  obtain ⟨nonempty, split⟩ := toList_of_normalize?_eq_some kept
  refine ⟨⟨lowerAfter [] (bare raw), split, ?_, ?_⟩, normalize?_of_normalize?_eq_some kept⟩
  · rwa [Ne, lowerAfter_eq_nil_iff]
  · have free : ¬ (lowerAfter [] (bare raw)).any isRefused = true := by
      rw [any_isRefused_iff, mem_lowerAfter_iff (by decide), mem_lowerAfter_iff (by decide),
        mem_lowerAfter_iff (by decide), ← any_isRefused_iff, Bool.not_eq_true]
      exact (Bool.or_eq_false_iff.mp wellFormed).2
    intro c member
    have kept' : ¬ isRefused c = true := fun refused =>
      free (List.any_eq_true.mpr ⟨c, member, refused⟩)
    simpa [isRefused, isSeparator] using kept'

end LanguageDetection.Extension
