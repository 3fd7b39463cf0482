import LanguageDetection.Proofs.Detection.Ascii

/-!
The built-in tables do not see the case of ASCII letters: texts that differ in nothing else are
matched by the same rules, and detected alike.
-/

namespace LanguageDetection.Registry

open LanguageDetection.Pattern
open LanguageDetection.Text

/-- Texts with the same letters in any case have the same scores, and are taken for the same
language, whatever they are called. -/
theorem builtIn_ignoresCase (profile : Profile) :
    ∃ registry, builtIn profile = .ok registry ∧
      ∀ s t : String, SameLetters s t →
        (∀ language ∈ registry.languages, ∀ rule ∈ language.rules,
          rule.isMatch s = rule.isMatch t) ∧
        Scoreboard.tally registry s = Scoreboard.tally registry t ∧
        (Scoreboard.tally registry s).leader? = (Scoreboard.tally registry t).leader? ∧
        ∀ detector : Detector, detector.registry = registry →
          ∀ filename, detector.detect s filename = detector.detect t filename := by
  obtain ⟨registry, built⟩ := exists_builtIn profile
  refine ⟨registry, built, fun s t sameLetters => ?_⟩
  have sameMatches : ∀ language ∈ registry.languages, ∀ rule ∈ language.rules,
      rule.isMatch s = rule.isMatch t := by
    intro language declared rule isRule
    obtain ⟨r, checked, searches⟩ := exists_regex_of_builtIn built declared isRule
      (BuiltIn.passes_isConfined_and_ignoresCase profile)
    obtain ⟨confined, ignores⟩ := Bool.and_eq_true_iff.mp checked
    simp only [Rule.isMatch, Rule.matchesBytes, searches]
    exact Searcher.search_encode_sameLetters confined ignores sameLetters
  have sameBoard := Scoreboard.tally_congr sameMatches
  refine ⟨sameMatches, sameBoard, congrArg Scoreboard.leader? sameBoard, ?_⟩
  rintro detector rfl filename
  exact Detector.detect_congr sameBoard filename

theorem builtIn_ignoresCase_mixed :
    ∃ registry, builtIn .compact = .ok registry ∧
      (Scoreboard.tally registry "Import A").scoreOf? "python" = some 1 ∧
      SameLetters "Import A" "iMPORT a" ∧
      (Scoreboard.tally registry "iMPORT a").scoreOf? "python" = some 1 := by
  obtain ⟨registry, built, score⟩ := exists_compact_import
  have sameLetters : SameLetters "Import A" "iMPORT a" := by
    simp [SameLetters]
  obtain ⟨registry', built', alike⟩ := builtIn_ignoresCase .compact
  obtain rfl := Except.ok.inj (built.symm.trans built')
  exact ⟨registry, built, score, sameLetters, (alike _ _ sameLetters).2.1 ▸ score⟩

end LanguageDetection.Registry
