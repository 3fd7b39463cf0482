import LanguageDetection.Proofs.Detection.Verdict
import LanguageDetection.Proofs.Filename

/-!
Filenames that decide: whatever stands before an extension of the registry, and however it is cased,
the filename decides for its language; and no filename decides that does not end in one.
-/

namespace LanguageDetection.Detector

open LanguageDetection.Extension
open LanguageDetection.Text

variable {registry : Registry} {policy : Policy}

theorem languageForExtension?_of_mem (wellFormed : registry.WellFormed)
    {extension language : String} (mapped : (extension, language) ∈ registry.extensions) :
    registry.languageForExtension? extension = some language := by
  rw [Registry.languageForExtension?, (wellFormed.isKey _ mapped).normalize?_eq,
    Option.bind_some]
  exact (wellFormed.ascending.mem_iff extension language).mp mapped

/-- What lower case makes a key starts with a dot, and there is more to it. -/
theorem exists_suffix {text extension : String} (isKey : IsKey extension)
    (lowers : lower text = extension) : ∃ suffix, text.toList = '.' :: suffix ∧ suffix ≠ [] := by
  obtain ⟨rest, split, nonempty, -⟩ := isKey.toList_eq
  rw [← lowers, toList_lower] at split
  have dotted : (lowerAfter [] text.toList).head? = some '.' := by
    rw [split]
    rfl
  obtain ⟨suffix, start⟩ := List.head?_eq_some_iff.mp (head?_lowerAfter_eq_dot_iff.mp dotted)
  refine ⟨suffix, start, ?_⟩
  rintro rfl
  rw [start, lowerAfter_dot] at split
  exact nonempty (List.cons.inj split).2.symm

theorem resolves_of_suffix (wellFormed : registry.WellFormed) {extension language : String}
    (mapped : (extension, language) ∈ registry.extensions) {text : String}
    (lowers : lower text = extension)
    (free : ∀ c ∈ text.toList.tail, c ≠ '.' ∧ isSeparator c = false) (stem : String) :
    Resolves ⟨registry, policy, true⟩ (some (stem ++ text)) language := by
  obtain ⟨suffix, start, nonempty⟩ := exists_suffix (wellFormed.isKey _ mapped) lowers
  rw [start, List.tail_cons] at free
  obtain ⟨directory, path, ends, stemFree⟩ := exists_directory stem.toList
  have splits : Splits (stem ++ text).toList directory (lastComponent stem.toList) suffix := by
    refine ⟨?_, ends, stemFree, free⟩
    rw [String.toList_append, start, ← List.append_assoc, ← path]
  have ofName : ofFilename? (stem ++ text) = some extension := by
    rw [ofFilename?_of_splits splits nonempty, ← start, String.ofList_toList, lowers]
  exact ⟨rfl, stem ++ text, extension, rfl, ofName, languageForExtension?_of_mem wellFormed mapped⟩

theorem exists_splits_of_resolves (wellFormed : registry.WellFormed) {filename : Option String}
    {language : String} (resolves : Resolves ⟨registry, policy, true⟩ filename language) :
    ∃ name directory stem suffix, filename = some name ∧
      Splits name.toList directory stem suffix ∧
      (trimEnd (lower (String.ofList ('.' :: suffix))), language) ∈ registry.extensions := by
  obtain ⟨-, name, extension, given, ofName, mapped⟩ := resolves
  obtain ⟨directory, stem, suffix, splits, -, rfl⟩ := exists_splits ofName
  obtain ⟨kept, normalized, found⟩ := Option.bind_eq_some_iff.mp mapped
  have dotted : (lower (String.ofList ('.' :: suffix))).toList.head? = some '.' := by
    rw [toList_lower, String.toList_ofList, lowerAfter_dot]
    rfl
  have lowered : ∀ c ∈ (lower (String.ofList ('.' :: suffix))).toList, IsLowered c := by
    rw [toList_lower]
    exact fun _ => isLowered_of_mem_lowerAfter
  refine ⟨name, directory, stem, suffix, given, splits, ?_⟩
  rw [← normalize?_eq_trimEnd dotted lowered normalized]
  exact (wellFormed.ascending.mem_iff kept language).mpr found

theorem ground_eq_filename_iff {detector : Detector} {text : String} {filename : Option String}
    {language : String} :
    detector.ground text filename = .filename language ↔ detector.Resolves filename language := by
  rw [← languageOfFilename?_eq_some_iff, ground]
  cases detector.languageOfFilename? filename with
  | some other => simp
  | none =>
      simp only [reduceCtorEq, iff_false]
      unfold groundOfText
      simp only
      split <;> simp

/-- Which filenames decide, over any registry that was built. -/
theorem filename_decides_ofSteps {start : Start} {steps : List Step}
    (built : (Draft.ofSteps start steps).build = .ok registry) (policy : Policy) :
    (∀ extension language, (extension, language) ∈ registry.extensions →
      ∀ stem suffix text : String, lower suffix = extension →
        (∀ c ∈ suffix.toList.tail, c ≠ '.' ∧ c ≠ '/' ∧ c ≠ '\\') →
        detect ⟨registry, policy, true⟩ text (some (stem ++ suffix)) = ⟨language, 0.9⟩) ∧
    (∀ text filename language,
      ground ⟨registry, policy, true⟩ text filename = .filename language →
      ∃ name directory stem suffix, filename = some name ∧
        Splits name.toList directory stem suffix ∧
        (trimEnd (lower (String.ofList ('.' :: suffix))), language) ∈ registry.extensions) := by
  have wellFormed : registry.WellFormed :=
    (Draft.builds_of_build_eq_ok built).wellFormed (Draft.describes_ofSteps start steps)
  constructor
  · intro extension language mapped stem suffix text lowers free
    apply detect_of_resolves
    apply resolves_of_suffix wellFormed mapped lowers
    intro c member
    simpa [isSeparator] using free c member
  · intro text filename language decided
    exact exists_splits_of_resolves wellFormed (ground_eq_filename_iff.mp decided)

def shellScripts : List Step :=
  [.language "shell" [], .rule "c" "\\bgoto\\b" 1, .extension "SH" "shell"]

/-- Case and white space at the end make no difference, nor do dots before the last. -/
theorem filename_decides_ofSteps_shellScripts :
    ∃ registry, (Draft.ofSteps .empty shellScripts).build = .ok registry ∧
      (".sh", "shell") ∈ registry.extensions ∧
      detect ⟨registry, .relativeToLeader 0.98, true⟩ "goto" (some ("a.b/c." ++ ".Sh")) =
        ⟨"shell", 0.9⟩ ∧
      ground ⟨registry, .relativeToLeader 0.98, true⟩ "goto" (some "a/run.tar.SH ") =
        .filename "shell" ∧
      ∃ name directory stem suffix, some "a/run.tar.SH " = some name ∧
        Splits name.toList directory stem suffix ∧
        (trimEnd (lower (String.ofList ('.' :: suffix))), "shell") ∈ registry.extensions := by
  obtain ⟨registry, built, mapped, found⟩ :
      ∃ registry, (Draft.ofSteps .empty shellScripts).build = .ok registry ∧
        (".sh", "shell") ∈ registry.extensions ∧
        registry.languageForExtension? ".sh " = some "shell" := by
    apply exists_of_check
    decide +kernel
  obtain ⟨mappedDecides, decidesMapped⟩ := filename_decides_ofSteps built (.relativeToLeader 0.98)
  have decided : ground ⟨registry, .relativeToLeader 0.98, true⟩ "goto" (some "a/run.tar.SH ") =
      .filename "shell" :=
    ground_eq_filename_iff.mpr ⟨rfl, "a/run.tar.SH ", ".sh ", rfl, by decide +kernel, found⟩
  exact ⟨registry, built, mapped,
    mappedDecides ".sh" "shell" mapped "a.b/c." ".Sh" "goto" (by decide +kernel) (by simp),
    decided, decidesMapped _ _ _ decided⟩

end LanguageDetection.Detector
