import LanguageDetection.Proofs.Extension

/-!
Filenames taken apart: the extension of a filename is what follows the last dot of its last
component, and its kept form differs from it by white space at the end only.
-/

namespace LanguageDetection.Extension

open LanguageDetection.Text

/-- A filename as its directory, its stem, and what follows the last dot of its last component. -/
structure Splits (filename directory stem suffix : List Char) : Prop where
  eq : filename = directory ++ (stem ++ '.' :: suffix)
  directory_end : ∀ c ∈ directory.getLast?, isSeparator c = true
  stem_free : ∀ c ∈ stem, isSeparator c = false
  suffix_free : ∀ c ∈ suffix, c ≠ '.' ∧ isSeparator c = false

theorem lastComponent_append {component : List Char}
    (free : ∀ c ∈ component, isSeparator c = false) (path : List Char) :
    lastComponent (path ++ component) = lastComponent path ++ component := by
  have reversed : ∀ c ∈ component.reverse, (!isSeparator c) = true := by
    intro c member
    rw [free c (List.mem_reverse.mp member)]
    rfl
  rw [lastComponent, List.reverse_append, List.takeWhile_append_of_pos reversed,
    List.reverse_append, List.reverse_reverse]
  rfl

theorem lastComponent_eq_nil {directory : List Char}
    (ends : ∀ c ∈ directory.getLast?, isSeparator c = true) : lastComponent directory = [] := by
  rw [lastComponent, List.reverse_eq_nil_iff]
  rw [← List.head?_reverse] at ends
  cases backwards : directory.reverse with
  | nil => rfl
  | cons c rest =>
      rw [backwards] at ends
      rw [List.takeWhile_cons_of_neg]
      simp [ends c rfl]

theorem exists_directory (path : List Char) : ∃ directory,
    path = directory ++ lastComponent path ∧
      (∀ c ∈ directory.getLast?, isSeparator c = true) ∧
      ∀ c ∈ lastComponent path, isSeparator c = false := by
  let notSeparator (c : Char) : Bool := !isSeparator c
  refine ⟨path.rdropWhile notSeparator, (List.rdropWhile_append_rtakeWhile ..).symm, ?_, ?_⟩
  · intro c last
    obtain ⟨nonempty, equal⟩ := List.mem_getLast?_eq_getLast last
    have stops := List.rdropWhile_last_not notSeparator _ nonempty
    rw [← equal] at stops
    simpa [notSeparator] using stops
  · intro c member
    simpa [notSeparator] using List.mem_rtakeWhile_imp member

theorem afterLastDot?_append {suffix : List Char} (free : ∀ c ∈ suffix, c ≠ '.')
    (stem : List Char) : afterLastDot? (stem ++ '.' :: suffix) = some suffix := by
  have reversed : ∀ c ∈ suffix.reverse, (c != '.') = true := by
    intro c member
    exact bne_iff_ne.mpr (free c (List.mem_reverse.mp member))
  have backwards : (stem ++ '.' :: suffix).reverse = suffix.reverse ++ '.' :: stem.reverse := by
    simp
  have found : ((stem ++ '.' :: suffix).reverse.takeWhile (· != '.')).reverse = suffix := by
    rw [backwards, List.takeWhile_append_of_pos reversed, List.takeWhile_cons_of_neg (by decide),
      List.append_nil, List.reverse_reverse]
  rw [afterLastDot?, found, if_pos]
  simp only [List.length_append, List.length_cons]
  omega

theorem exists_stem {name suffix : List Char} (found : afterLastDot? name = some suffix) :
    ∃ stem, name = stem ++ '.' :: suffix ∧ ∀ c ∈ suffix, c ≠ '.' := by
  let notDot (c : Char) : Bool := c != '.'
  unfold afterLastDot? at found
  simp only at found
  split at found
  · rename_i shorter
    have same : name.rtakeWhile notDot = suffix := Option.some.inj found
    have split := List.rdropWhile_append_rtakeWhile (p := notDot) (l := name)
    change (name.rtakeWhile notDot).length < name.length at shorter
    rw [same] at split shorter
    have nonempty : name.rdropWhile notDot ≠ [] := by
      intro empty
      rw [empty, List.nil_append] at split
      rw [split] at shorter
      exact lt_irrefl _ shorter
    have dotLast : (name.rdropWhile notDot).getLast nonempty = '.' := by
      simpa [notDot] using List.rdropWhile_last_not notDot name nonempty
    refine ⟨(name.rdropWhile notDot).dropLast, ?_, ?_⟩
    · rw [← List.dropLast_append_getLast nonempty, dotLast, List.append_assoc] at split
      exact split.symm
    · intro c member
      rw [← same] at member
      simpa [notDot] using List.mem_rtakeWhile_imp member
  · contradiction

theorem ofFilename?_of_splits {filename : String} {directory stem suffix : List Char}
    (splits : Splits filename.toList directory stem suffix) (nonempty : suffix ≠ []) :
    ofFilename? filename = some (lower (String.ofList ('.' :: suffix))) := by
  have free : ∀ c ∈ stem ++ '.' :: suffix, isSeparator c = false := by
    intro c member
    rcases List.mem_append.mp member with inStem | inRest
    · exact splits.stem_free c inStem
    · rcases List.mem_cons.mp inRest with rfl | inSuffix
      · decide
      · exact (splits.suffix_free c inSuffix).2
  have component : lastComponent filename.toList = stem ++ '.' :: suffix := by
    rw [splits.eq, lastComponent_append free, lastComponent_eq_nil splits.directory_end,
      List.nil_append]
  rw [ofFilename?, component, afterLastDot?_append fun c member => (splits.suffix_free c member).1]
  simp [nonempty]

theorem exists_splits {filename extension : String}
    (found : ofFilename? filename = some extension) :
    ∃ directory stem suffix, Splits filename.toList directory stem suffix ∧ suffix ≠ [] ∧
      extension = lower (String.ofList ('.' :: suffix)) := by
  unfold ofFilename? at found
  split at found
  · contradiction
  · rename_i suffix afterDot
    split at found
    · contradiction
    · rename_i nonempty
      obtain ⟨directory, path, ends, free⟩ := exists_directory filename.toList
      obtain ⟨stem, component, noDot⟩ := exists_stem afterDot
      rw [component] at path free
      refine ⟨directory, stem, suffix, ⟨path, ends, ?_, ?_⟩, by simpa using nonempty,
        (Option.some.inj found).symm⟩
      · intro c member
        exact free c (List.mem_append_left _ member)
      · intro c member
        exact ⟨noDot c member, free c (List.mem_append_right _ (List.mem_cons_of_mem _ member))⟩

/-- What starts with a dot and is in lower case is kept but for white space at its end. -/
theorem normalize?_eq_trimEnd {text extension : String} (dotted : text.toList.head? = some '.')
    (lowered : ∀ c ∈ text.toList, IsLowered c) (kept : normalize? text = some extension) :
    extension = trimEnd text := by
  obtain ⟨nonempty, split⟩ := toList_of_normalize?_eq_some kept
  obtain ⟨rest, start⟩ := List.head?_eq_some_iff.mp dotted
  have trimmed : trimChars text.toList = (trimEnd text).toList := by
    rw [toList_trimEnd, start, trimChars_cons_of_not_isBlank (by decide)]
  have isPrefix : (trimEnd text).toList <+: text.toList := by
    rw [toList_trimEnd]
    exact List.rdropWhile_prefix ..
  rw [← String.toList_inj, split]
  rw [bare, trimmed] at nonempty ⊢
  -- Something is left, so the dot is.
  cases kept : (trimEnd text).toList with
  | nil =>
      rw [kept] at nonempty
      exact absurd rfl nonempty
  | cons c tail =>
      have stays : ∀ d ∈ c :: tail, IsLowered d := fun d member =>
        lowered d (isPrefix.subset (kept ▸ member))
      rw [kept, start] at isPrefix
      obtain ⟨rfl, -⟩ := List.cons_prefix_cons.mp isPrefix
      refine congrArg ('.' :: ·) (lowerAfter_eq_self ?_)
      exact fun d member => stays d (List.mem_cons_of_mem _ member)

end LanguageDetection.Extension
