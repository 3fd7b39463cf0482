import LanguageDetection.Proofs.Filename
import LanguageDetection.Proofs.Spelling

/-!
The two forms that extensions have: the kept form, and the form in a filename. Both start with a dot
and are in lower case. A kept form has no white space around it, and the form in a filename has no
dot or separator after the first dot.
-/

namespace LanguageDetection.Extension

open LanguageDetection.Text

structure IsKeptForm (extension : String) : Prop where
  two_le_length : 2 ≤ extension.length
  dotted : extension.toList.head? = some '.'
  trimmed : IsTrimmed extension.toList
  normalize?_eq : normalize? extension = some extension

structure IsFilenameForm (extension : String) : Prop where
  toList_eq : ∃ rest, extension.toList = '.' :: rest ∧ ∀ c ∈ rest, c ≠ '.' ∧ c ≠ '/' ∧ c ≠ '\\'
  lower_eq : lower extension = extension
  normalize?_eq : normalize? extension =
    if trimEnd extension = "." then none else some (trimEnd extension)

theorem isKeptForm_of_normalize?_eq_some {raw extension : String}
    (kept : normalize? raw = some extension) : IsKeptForm extension := by
  obtain ⟨nonempty, split⟩ := toList_of_normalize?_eq_some kept
  constructor
  case two_le_length =>
    have positive : 0 < (lowerAfter [] (bare raw)).length :=
      List.length_pos_of_ne_nil (mt lowerAfter_eq_nil_iff.mp nonempty)
    rw [← String.length_toList, split, List.length_cons]
    omega
  case dotted =>
    rw [split]
    rfl
  case trimmed => exact (isTrimmed_of_normalize?_eq_some kept).1
  case normalize?_eq => exact normalize?_of_normalize?_eq_some kept

theorem normalize?_dot_append_trim {raw : String} (undotted : (trim raw).toList.head? ≠ some '.') :
    normalize? ("." ++ trim raw) = normalize? raw := by
  have trimmed : IsTrimmed (trim raw).toList := by
    rw [toList_trim]
    exact isTrimmed_trimChars raw.toList
  have same : bare (trim raw) = bare raw := by
    rw [bare, toList_trim, trimChars_trimChars]
    rfl
  rw [normalize?_eq_normalize?_iff, bare_dot_append trimmed undotted, same]

/-- A path as its directory, up to the last separator, and what follows. -/
structure EndsIn (path directory component : List Char) : Prop where
  eq : path = directory ++ component
  directory_end : ∀ c ∈ directory.getLast?, isSeparator c = true
  component_free : ∀ c ∈ component, isSeparator c = false

theorem exists_endsIn (path : List Char) :
    ∃ directory component, EndsIn path directory component := by
  obtain ⟨directory, eq, ends, free⟩ := exists_directory path
  exact ⟨directory, lastComponent path, eq, ends, free⟩

theorem EndsIn.lastComponent_eq {path directory component : List Char}
    (endsIn : EndsIn path directory component) : lastComponent path = component := by
  rw [endsIn.eq, lastComponent_append endsIn.component_free,
    lastComponent_eq_nil endsIn.directory_end, List.nil_append]

theorem Splits.endsIn {path directory stem suffix : List Char}
    (splits : Splits path directory stem suffix) :
    EndsIn path directory (stem ++ '.' :: suffix) := by
  refine ⟨splits.eq, splits.directory_end, ?_⟩
  intro c member
  cases List.mem_append.mp member with
  | inl inStem => exact splits.stem_free c inStem
  | inr rest =>
      cases List.mem_cons.mp rest with
      | inl isDot =>
          rw [isDot]
          decide
      | inr inSuffix => exact (splits.suffix_free c inSuffix).2

section Component

variable {directory component : List Char} {filename : String}
  (endsIn : EndsIn filename.toList directory component)

include endsIn

theorem EndsIn.splits {stem suffix : List Char} (split : component = stem ++ '.' :: suffix)
    (undotted : '.' ∉ suffix) : Splits filename.toList directory stem suffix := by
  have free := endsIn.component_free
  rw [split] at free
  constructor
  · rw [endsIn.eq, split]
  · exact endsIn.directory_end
  · intro c member
    exact free c (List.mem_append_left _ member)
  · intro c member
    refine ⟨?_, free c (List.mem_append_right _ (List.mem_cons_of_mem _ member))⟩
    intro isDot
    exact undotted (isDot ▸ member)

theorem ofFilename?_eq_some_iff {extension : String} :
    ofFilename? filename = some extension ↔
      ∃ stem suffix, component = stem ++ '.' :: suffix ∧ '.' ∉ suffix ∧ suffix ≠ [] ∧
        extension = lower (String.ofList ('.' :: suffix)) := by
  constructor
  · intro found
    obtain ⟨_, stem, suffix, splits, nonempty, isLower⟩ := exists_splits found
    have same : component = stem ++ '.' :: suffix :=
      endsIn.lastComponent_eq.symm.trans splits.endsIn.lastComponent_eq
    refine ⟨stem, suffix, same, ?_, nonempty, isLower⟩
    intro member
    exact (splits.suffix_free '.' member).1 rfl
  · intro ⟨stem, suffix, split, undotted, nonempty, isLower⟩
    rw [isLower]
    exact ofFilename?_of_splits (endsIn.splits split undotted) nonempty

theorem exists_ofFilename?_iff :
    (∃ extension, ofFilename? filename = some extension) ↔
      '.' ∈ component ∧ component.getLast? ≠ some '.' := by
  simp only [ofFilename?_eq_some_iff endsIn]
  constructor
  · intro ⟨_, stem, suffix, split, undotted, nonempty, _⟩
    obtain ⟨c, rest, rfl⟩ := List.exists_cons_of_ne_nil nonempty
    rw [split]
    refine ⟨List.mem_append_right _ List.mem_cons_self, ?_⟩
    rw [List.getLast?_append_cons, List.getLast?_cons_cons]
    intro last
    exact undotted (List.mem_of_getLast? last)
  · intro ⟨dotted, notLast⟩
    -- The last dot is the first one from behind.
    obtain ⟨behind, before, split, absent⟩ :=
      List.eq_append_cons_of_mem (List.mem_reverse.mpr dotted)
    have split' : component = before.reverse ++ '.' :: behind.reverse := by
      rw [← List.reverse_reverse component, split]
      simp
    refine ⟨_, before.reverse, behind.reverse, split', mt List.mem_reverse.mp absent, ?_, rfl⟩
    intro nothing
    rw [split', nothing, List.getLast?_append_cons] at notLast
    exact notLast rfl

end Component

theorem ofFilename?_append {directory : String}
    (ends : ∀ c ∈ directory.toList.getLast?, isSeparator c = true) (filename : String) :
    ofFilename? (directory ++ filename) = ofFilename? filename := by
  obtain ⟨inner, component, endsIn⟩ := exists_endsIn filename.toList
  have endsIn' : EndsIn (directory ++ filename).toList (directory.toList ++ inner) component := by
    refine ⟨?_, ?_, endsIn.component_free⟩
    · rw [String.toList_append, endsIn.eq, List.append_assoc]
    · intro c last
      cases inner with
      | nil =>
          rw [List.append_nil] at last
          exact ends c last
      | cons d rest =>
          rw [List.getLast?_append_cons] at last
          exact endsIn.directory_end c last
  ext extension
  rw [ofFilename?_eq_some_iff endsIn', ofFilename?_eq_some_iff endsIn]

theorem normalize?_eq_ite_trimEnd {extension : String}
    (dotted : extension.toList.head? = some '.')
    (lowered : ∀ c ∈ extension.toList, IsLowered c) :
    normalize? extension =
      if trimEnd extension = "." then none else some (trimEnd extension) := by
  obtain ⟨rest, start⟩ := List.head?_eq_some_iff.mp dotted
  have sameTrim : trim extension = trimEnd extension := by
    rw [← String.toList_inj, toList_trim, toList_trimEnd, start,
      trimChars_cons_of_not_isBlank (by decide)]
  have notEmpty : trimEnd extension ≠ "" := by
    rw [Ne, ← String.toList_inj, toList_trimEnd, start]
    intro nothing
    have blank := List.rdropWhile_eq_nil_iff.mp nothing '.' List.mem_cons_self
    contradiction
  have none_iff := normalize?_eq_none_iff_trim extension
  rw [sameTrim, or_iff_right notEmpty] at none_iff
  split
  case isTrue onlyDot => exact none_iff.mpr onlyDot
  case isFalse more =>
      cases kept : normalize? extension with
      | none => exact absurd (none_iff.mp kept) more
      | some kept' => rw [normalize?_eq_trimEnd dotted lowered kept]

theorem isFilenameForm_of_ofFilename?_eq_some {filename extension : String}
    (found : ofFilename? filename = some extension) : IsFilenameForm extension := by
  obtain ⟨_, _, suffix, splits, _, isLower⟩ := exists_splits found
  have toList_eq : extension.toList = '.' :: lowerAfter [] suffix := by
    rw [isLower, toList_lower, String.toList_ofList, lowerAfter_dot]
  constructor
  case toList_eq =>
    refine ⟨_, toList_eq, ?_⟩
    intro c member
    have free : ∀ {d : Char}, isCaseless d = true → d ∉ suffix → c ≠ d := by
      intro d caseless absent isThat
      exact absent ((mem_lowerAfter_iff caseless).mp (isThat ▸ member))
    refine ⟨free (by decide) ?_, free (by decide) ?_, free (by decide) ?_⟩
    · intro inSuffix
      exact (splits.suffix_free _ inSuffix).1 rfl
    · intro inSuffix
      exact absurd (splits.suffix_free _ inSuffix).2 (by decide)
    · intro inSuffix
      exact absurd (splits.suffix_free _ inSuffix).2 (by decide)
  case lower_eq => rw [isLower, lower_lower]
  case normalize?_eq =>
    apply normalize?_eq_ite_trimEnd
    · rw [toList_eq]
      rfl
    · rw [isLower, toList_lower]
      exact fun _ => isLowered_of_mem_lowerAfter

/-- What the kept form of any text is, and the extension of any filename. -/
theorem extension_forms :
    (∀ raw : String,
      (normalize? raw = none ↔ trim raw = "" ∨ trim raw = ".") ∧
      (∀ extension, normalize? raw = some extension → IsKeptForm extension) ∧
      ((trim raw).toList.head? ≠ some '.' → normalize? ("." ++ trim raw) = normalize? raw)) ∧
    ∀ filename : String,
      (∃ directory component, EndsIn filename.toList directory component) ∧
      (∀ directory component, EndsIn filename.toList directory component →
        ((∃ extension, ofFilename? filename = some extension) ↔
          '.' ∈ component ∧ component.getLast? ≠ some '.') ∧
        ∀ extension, ofFilename? filename = some extension ↔
          ∃ stem suffix, component = stem ++ '.' :: suffix ∧ '.' ∉ suffix ∧ suffix ≠ [] ∧
            extension = lower (String.ofList ('.' :: suffix))) ∧
      (∀ extension, ofFilename? filename = some extension → IsFilenameForm extension) ∧
      ∀ directory : String, (∃ c ∈ directory.toList.getLast?, c = '/' ∨ c = '\\') →
        ofFilename? (directory ++ filename) = ofFilename? filename := by
  constructor
  · intro raw
    exact ⟨normalize?_eq_none_iff_trim raw, fun _ => isKeptForm_of_normalize?_eq_some,
      normalize?_dot_append_trim⟩
  · intro filename
    refine ⟨exists_endsIn filename.toList, ?_, fun _ => isFilenameForm_of_ofFilename?_eq_some, ?_⟩
    · intro directory component endsIn
      exact ⟨exists_ofFilename?_iff endsIn, fun _ => ofFilename?_eq_some_iff endsIn⟩
    · intro directory ⟨last, isLast, separates⟩
      apply ofFilename?_append
      intro c isLast'
      obtain rfl : last = c := Option.some.inj (isLast.symm.trans isLast')
      simpa [isSeparator] using separates

/-- Lower case makes two characters of the capital i with a dot. -/
theorem extension_forms_lowered :
    normalize? "\tİŽ " = some ".i\u0307ž" ∧ IsKeptForm ".i\u0307ž" ∧
    normalize? ".İŽ" = some ".i\u0307ž" ∧
    EndsIn "a.b/c.d.İ ".toList "a.b/".toList "c.d.İ ".toList ∧
    (∃ stem suffix, "c.d.İ ".toList = stem ++ '.' :: suffix ∧ '.' ∉ suffix ∧ suffix ≠ [] ∧
      ".i\u0307 " = lower (String.ofList ('.' :: suffix))) ∧
    IsFilenameForm ".i\u0307 " ∧
    ofFilename? "C:\\a.b/c.d.İ " = ofFilename? "a.b/c.d.İ " := by
  have kept : normalize? "\tİŽ " = some ".i\u0307ž" := by decide +kernel
  have found : ofFilename? "a.b/c.d.İ " = some ".i\u0307 " := by decide +kernel
  have endsIn : EndsIn "a.b/c.d.İ ".toList "a.b/".toList "c.d.İ ".toList := by
    refine ⟨rfl, ?_, ?_⟩
    · intro c last
      obtain rfl : '/' = c := Option.some.inj last
      rfl
    · intro c member
      have free : ("c.d.İ ".toList.all fun c => !isSeparator c) = true := rfl
      exact (Bool.not_eq_true' _).mp (List.all_eq_true.mp free c member)
  obtain ⟨-, isKept, dotted⟩ := extension_forms.1 "\tİŽ "
  obtain ⟨-, ofComponent, isFilenameForm, prefixed⟩ := extension_forms.2 "a.b/c.d.İ "
  refine ⟨kept, isKept _ kept, ?_, endsIn, ((ofComponent _ _ endsIn).2 _).mp found,
    isFilenameForm _ found, prefixed "C:\\" ⟨'\\', by decide, Or.inr rfl⟩⟩
  rw [← kept, ← dotted (by decide)]
  rfl

end LanguageDetection.Extension
