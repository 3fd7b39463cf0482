import LanguageDetection.Proofs.Text.Case
import LanguageDetection.Proofs.Unicode.Cased

/-!
Lower case looks at the neighbours of a character, but only for case. So what has no case can be put
around a text, or taken away, before or after lower case: trimming and lower case commute.
-/

namespace LanguageDetection.Text

open LanguageDetection.Unicode

theorem meetsCased_eq_false {chars : List Char} (uncased : ∀ c ∈ chars, isCased c = false) :
    meetsCased chars = false := by
  unfold meetsCased
  split
  · rfl
  · rename_i c rest kept
    have member : c ∈ chars.dropWhile isCaseIgnorable := by
      rw [kept]
      exact List.mem_cons_self
    exact uncased c ((List.dropWhile_sublist _).mem member)

theorem meetsCased_of_isBlank {chars : List Char} (blank : IsBlank chars) :
    meetsCased chars = false :=
  meetsCased_eq_false fun c member => isCased_of_isBlank (blank c member)

theorem meetsCased_dot : meetsCased ['.'] = false := by
  apply meetsCased_eq_false
  intro c member
  rw [List.mem_singleton.mp member]
  exact isCased_dot

theorem meetsCased_append {others : List Char} (noCase : meetsCased others = false)
    (chars : List Char) : meetsCased (chars ++ others) = meetsCased chars := by
  unfold meetsCased
  rw [List.dropWhile_append]
  cases kept : chars.dropWhile isCaseIgnorable with
  | nil => exact noCase
  | cons c rest => rfl

theorem lowerAfter_append_before {before : List Char} (noCase : meetsCased before = false)
    (nearer chars : List Char) : lowerAfter (nearer ++ before) chars = lowerAfter nearer chars := by
  induction chars generalizing nearer with
  | nil => rfl
  | cons c rest ih =>
      have next := ih (c :: nearer)
      rw [List.cons_append] at next
      rw [lowerAfter, lowerAfter, next, meetsCased_append noCase]

theorem lowerAfter_eq_of_not_meetsCased {before : List Char} (noCase : meetsCased before = false)
    (chars : List Char) : lowerAfter before chars = lowerAfter [] chars :=
  lowerAfter_append_before noCase [] chars

theorem lowerAfter_append {after : List Char} (noCase : meetsCased after = false)
    (before chars : List Char) :
    lowerAfter before (chars ++ after) =
      lowerAfter before chars ++ lowerAfter (chars.reverse ++ before) after := by
  induction chars generalizing before with
  | nil => rfl
  | cons c rest ih =>
      rw [List.cons_append, lowerAfter, lowerAfter, ih, meetsCased_append noCase,
        List.reverse_cons, List.append_assoc, List.append_assoc]
      rfl

theorem isLowered_of_isBlank {chars : List Char} (blank : IsBlank chars) :
    ∀ c ∈ chars, IsLowered c := by
  intro c member
  exact isLowered_of_isCaseless (by simp [isCaseless, blank c member])

theorem lowerAfter_append_of_isLowered {front : List Char} (lowered : ∀ c ∈ front, IsLowered c)
    (before chars : List Char) :
    lowerAfter before (front ++ chars) = front ++ lowerAfter (front.reverse ++ before) chars := by
  induction front generalizing before with
  | nil => rfl
  | cons c rest ih =>
      rw [List.cons_append, lowerAfter_cons_of_isLowered (lowered c List.mem_cons_self),
        ih fun d member => lowered d (List.mem_cons_of_mem _ member), List.reverse_cons,
        List.append_assoc]
      rfl

theorem lowerAfter_append_of_isBlank {front back : List Char} (frontBlank : IsBlank front)
    (backBlank : IsBlank back) (chars : List Char) :
    lowerAfter [] (front ++ chars ++ back) = front ++ lowerAfter [] chars ++ back := by
  have reversedBlank : IsBlank front.reverse := fun c member =>
    frontBlank c (List.mem_reverse.mp member)
  rw [lowerAfter_append (meetsCased_of_isBlank backBlank),
    lowerAfter_eq_self (isLowered_of_isBlank backBlank),
    lowerAfter_append_of_isLowered (isLowered_of_isBlank frontBlank), List.append_nil,
    lowerAfter_eq_of_not_meetsCased (meetsCased_of_isBlank reversedBlank)]

theorem lowerAfter_dot (chars : List Char) :
    lowerAfter [] ('.' :: chars) = '.' :: lowerAfter [] chars := by
  rw [lowerAfter_cons_of_isLowered (isLowered_of_isCaseless (by decide)),
    lowerAfter_eq_of_not_meetsCased meetsCased_dot]

theorem head?_lowerAfter_eq_dot_iff {chars : List Char} :
    (lowerAfter [] chars).head? = some '.' ↔ chars.head? = some '.' := by
  constructor
  · exact head?_lowerAfter (by decide)
  · intro dotted
    obtain ⟨rest, rfl⟩ := List.head?_eq_some_iff.mp dotted
    rw [lowerAfter_dot]
    rfl

theorem trimChars_lowerAfter (chars : List Char) :
    trimChars (lowerAfter [] chars) = lowerAfter [] (trimChars chars) := by
  obtain ⟨front, back, frontBlank, backBlank, split⟩ := exists_trimChars chars
  have trimmed := (isTrimmed_trimChars chars).lowerAfter []
  conv => lhs; rw [split]
  rw [lowerAfter_append_of_isBlank frontBlank backBlank,
    trimChars_append_of_isBlank frontBlank backBlank, trimmed.trimChars_eq]

end LanguageDetection.Text
