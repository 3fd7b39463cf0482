import LanguageDetection.Text.Blank
import Mathlib.Data.List.DropRight

/-!
Trimming: a trimmed text has no white space at its ends, and is not changed by trimming it again.
Nothing but white space is lost, so white space added at the ends makes no difference.
-/

namespace LanguageDetection.Text

/-- No white space at either end. -/
structure IsTrimmed (chars : List Char) : Prop where
  head : ∀ c ∈ chars.head?, isBlank c = false
  last : ∀ c ∈ chars.getLast?, isBlank c = false

@[simp] theorem toList_trim (text : String) : (trim text).toList = trimChars text.toList :=
  String.toList_ofList

theorem trimChars_eq_rdropWhile (chars : List Char) :
    trimChars chars = (chars.dropWhile isBlank).rdropWhile isBlank := rfl

theorem isTrimmed_trimChars (chars : List Char) : IsTrimmed (trimChars chars) := by
  rw [trimChars_eq_rdropWhile]
  constructor
  · intro c member
    have kept : (chars.dropWhile isBlank).head? = some c := by
      obtain ⟨tail, split⟩ := List.rdropWhile_prefix isBlank (chars.dropWhile isBlank)
      rw [← split, List.head?_append, Option.mem_def.mp member, Option.some_or]
    have notBlank := List.head?_dropWhile_not isBlank chars
    rw [kept] at notBlank
    exact notBlank
  · intro c member
    obtain ⟨nonempty, equal⟩ := List.mem_getLast?_eq_getLast member
    have notBlank := List.rdropWhile_last_not isBlank _ nonempty
    rw [← equal] at notBlank
    exact Bool.eq_false_iff.mpr notBlank

theorem IsTrimmed.trimChars_eq {chars : List Char} (trimmed : IsTrimmed chars) :
    trimChars chars = chars := by
  have front : chars.dropWhile isBlank = chars := by
    cases chars with
    | nil => rfl
    | cons c rest => rw [List.dropWhile_cons_of_neg (by simp [trimmed.head c rfl])]
  rw [trimChars_eq_rdropWhile, front, List.rdropWhile_eq_self_iff]
  intro nonempty blank
  rw [trimmed.last _ (List.getLast?_eq_some_getLast nonempty)] at blank
  contradiction

@[simp] theorem trimChars_trimChars (chars : List Char) :
    trimChars (trimChars chars) = trimChars chars :=
  (isTrimmed_trimChars chars).trimChars_eq

def IsBlank (chars : List Char) : Prop := ∀ c ∈ chars, isBlank c = true

theorem exists_trimChars (chars : List Char) :
    ∃ front back, IsBlank front ∧ IsBlank back ∧ chars = front ++ trimChars chars ++ back := by
  refine ⟨chars.takeWhile isBlank, (chars.dropWhile isBlank).rtakeWhile isBlank, ?_, ?_, ?_⟩
  · intro c member
    exact List.mem_takeWhile_imp member
  · intro c member
    exact List.mem_rtakeWhile_imp member
  · rw [trimChars_eq_rdropWhile, List.append_assoc, List.rdropWhile_append_rtakeWhile,
      List.takeWhile_append_dropWhile]

theorem rdropWhile_append_of_isBlank (chars : List Char) {back : List Char}
    (blank : IsBlank back) : (chars ++ back).rdropWhile isBlank = chars.rdropWhile isBlank := by
  have reversed : ∀ c ∈ back.reverse, isBlank c = true := fun c member =>
    blank c (List.mem_reverse.mp member)
  rw [List.rdropWhile, List.reverse_append, List.dropWhile_append_of_pos reversed]
  rfl

theorem trimChars_append_of_isBlank {front back : List Char} (frontBlank : IsBlank front)
    (backBlank : IsBlank back) (chars : List Char) :
    trimChars (front ++ chars ++ back) = trimChars chars := by
  rw [trimChars_eq_rdropWhile, trimChars_eq_rdropWhile, List.append_assoc,
    List.dropWhile_append_of_pos frontBlank, List.dropWhile_append]
  split
  · rename_i nothing
    rw [List.isEmpty_iff.mp nothing, List.dropWhile_eq_nil_iff.mpr backBlank]
  · exact rdropWhile_append_of_isBlank _ backBlank

def trimEnd (text : String) : String :=
  String.ofList (text.toList.rdropWhile isBlank)

@[simp] theorem toList_trimEnd (text : String) :
    (trimEnd text).toList = text.toList.rdropWhile isBlank :=
  String.toList_ofList

theorem trimChars_cons_of_not_isBlank {c : Char} (notBlank : isBlank c = false)
    (chars : List Char) : trimChars (c :: chars) = (c :: chars).rdropWhile isBlank := by
  rw [trimChars_eq_rdropWhile, List.dropWhile_cons_of_neg (by simp [notBlank])]

end LanguageDetection.Text
