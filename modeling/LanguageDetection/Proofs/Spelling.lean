import LanguageDetection.Proofs.Extension
import Mathlib.Logic.Relation

/-!
Spellings of an extension: two texts have the same kept form exactly if one becomes the other by
changes of case, of the white space around it, and of whether there is a dot in front.
-/

namespace LanguageDetection.Extension

open LanguageDetection.Text

/-- One change of how an extension is spelled. -/
inductive Respells : String → String → Prop
  | case {text other : String} (same : lower text = lower other) : Respells text other
  | blanks (text : String) {front back : List Char} (frontBlank : IsBlank front)
      (backBlank : IsBlank back) : Respells text (String.ofList (front ++ text.toList ++ back))
  | dot {text : String} (trimmed : IsTrimmed text.toList)
      (undotted : text.toList.head? ≠ some '.') : Respells text ("." ++ text)

def SameExtension : String → String → Prop :=
  Relation.EqvGen Respells

theorem withoutDot_of_undotted {chars : List Char} (undotted : chars.head? ≠ some '.') :
    withoutDot chars = chars := by
  unfold withoutDot
  split
  · exact absurd rfl undotted
  · rfl

theorem withoutDot_lowerAfter (chars : List Char) :
    withoutDot (lowerAfter [] chars) = lowerAfter [] (withoutDot chars) := by
  by_cases dotted : chars.head? = some '.'
  · obtain ⟨rest, rfl⟩ := List.head?_eq_some_iff.mp dotted
    rw [lowerAfter_dot]
    rfl
  · rw [withoutDot_of_undotted dotted,
      withoutDot_of_undotted (mt head?_lowerAfter_eq_dot_iff.mp dotted)]

theorem lowerAfter_bare (raw : String) :
    lowerAfter [] (bare raw) = withoutDot (trimChars (lowerAfter [] raw.toList)) := by
  rw [trimChars_lowerAfter, withoutDot_lowerAfter]
  rfl

theorem normalize?_eq (raw : String) :
    normalize? raw = if lowerAfter [] (bare raw) = [] then none
      else some (String.ofList ('.' :: lowerAfter [] (bare raw))) := by
  cases kept : normalize? raw with
  | none =>
      rw [if_pos]
      exact lowerAfter_eq_nil_iff.mpr ((normalize?_eq_none_iff raw).mp kept)
  | some extension =>
      obtain ⟨nonempty, split⟩ := toList_of_normalize?_eq_some kept
      rw [if_neg (mt lowerAfter_eq_nil_iff.mp nonempty), ← split, String.ofList_toList]

theorem normalize?_eq_normalize?_iff (text other : String) :
    normalize? text = normalize? other ↔
      lowerAfter [] (bare text) = lowerAfter [] (bare other) := by
  rw [normalize?_eq, normalize?_eq]
  constructor
  · intro same
    split at same
    · rename_i empty
      split at same
      · rename_i empty'
        rw [empty, empty']
      · contradiction
    · split at same
      · contradiction
      · have lists := String.ofList_injective (Option.some.inj same)
        exact (List.cons.inj lists).2
  · intro same
    rw [same]

theorem toList_dot_append (text : String) : ("." ++ text).toList = '.' :: text.toList := by
  rw [String.toList_append]
  rfl

theorem isTrimmed_cons_dot {chars : List Char} (trimmed : IsTrimmed chars) :
    IsTrimmed ('.' :: chars) := by
  have notBlank : isBlank '.' = false := by decide
  constructor
  · intro c head
    rwa [← Option.mem_some_iff.mp head]
  · intro c last
    cases chars with
    | nil => rwa [← Option.mem_some_iff.mp last]
    | cons d rest => exact trimmed.last c (List.getLast?_cons_cons ▸ last)

theorem bare_of_isBlank {front back : List Char} (frontBlank : IsBlank front)
    (backBlank : IsBlank back) (text : String) :
    bare (String.ofList (front ++ text.toList ++ back)) = bare text := by
  rw [bare, String.toList_ofList, trimChars_append_of_isBlank frontBlank backBlank]
  rfl

theorem bare_dot_append {text : String} (trimmed : IsTrimmed text.toList)
    (undotted : text.toList.head? ≠ some '.') : bare ("." ++ text) = bare text := by
  rw [bare, toList_dot_append, (isTrimmed_cons_dot trimmed).trimChars_eq, bare,
    trimmed.trimChars_eq, withoutDot_of_undotted undotted]
  rfl

theorem normalize?_eq_of_respells {text other : String} (respells : Respells text other) :
    normalize? text = normalize? other := by
  rw [normalize?_eq_normalize?_iff]
  cases respells with
  | case same =>
      rw [lowerAfter_bare, lowerAfter_bare, ← toList_lower, ← toList_lower, same]
  | blanks frontBlank backBlank => rw [bare_of_isBlank frontBlank backBlank]
  | dot trimmed undotted => rw [bare_dot_append trimmed undotted]

def dotted (raw : String) : String :=
  String.ofList ('.' :: bare raw)

theorem sameExtension_dotted (raw : String) : SameExtension raw (dotted raw) := by
  obtain ⟨front, back, frontBlank, backBlank, split⟩ := exists_trimChars raw.toList
  have padded : Respells (trim raw) raw := by
    have step := Respells.blanks (trim raw) frontBlank backBlank
    rwa [toList_trim, ← split, String.ofList_toList] at step
  refine .trans _ (trim raw) _ (.symm _ _ (.rel _ _ padded)) ?_
  by_cases hasDot : (trimChars raw.toList).head? = some '.'
  · obtain ⟨rest, splitDot⟩ := List.head?_eq_some_iff.mp hasDot
    have same : trim raw = dotted raw := by
      rw [← String.toList_inj, toList_trim, dotted, String.toList_ofList, bare, splitDot]
      rfl
    rw [same]
    exact .refl _
  · have same : "." ++ trim raw = dotted raw := by
      rw [← String.toList_inj, toList_dot_append, toList_trim, dotted, String.toList_ofList,
        bare, withoutDot_of_undotted hasDot]
    rw [← same]
    refine .rel _ _ (.dot ?_ ?_)
    · rw [toList_trim]
      exact isTrimmed_trimChars _
    · rwa [toList_trim]

/-- The kept form forgets the spelling and nothing else. -/
theorem sameExtension_iff (text other : String) :
    SameExtension text other ↔ normalize? text = normalize? other := by
  constructor
  · intro same
    induction same with
    | rel text other respells => exact normalize?_eq_of_respells respells
    | refl text => rfl
    | symm text other _ ih => exact ih.symm
    | trans text middle other _ _ first second => exact first.trans second
  · intro same
    rw [normalize?_eq_normalize?_iff] at same
    have lowered : lower (dotted text) = lower (dotted other) := by
      rw [← String.toList_inj, toList_lower, toList_lower, dotted, dotted, String.toList_ofList,
        String.toList_ofList, lowerAfter_dot, lowerAfter_dot, same]
    refine .trans _ (dotted text) _ (sameExtension_dotted text) ?_
    refine .trans _ (dotted other) _ (.rel _ _ (.case lowered)) ?_
    exact .symm _ _ (sameExtension_dotted other)

end LanguageDetection.Extension
