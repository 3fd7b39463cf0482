import LanguageDetection.Detection.Detector
import LanguageDetection.Proofs.Signature.Patterns

/-!
What the built-in tables see of a text: its runs of ASCII characters, one by one. Whatever else
stands between them makes no difference.
-/

namespace LanguageDetection

open LanguageDetection.Pattern
open LanguageDetection.Text

theorem Language.score_congr {language : Language} {bytes bytes' : List UInt8}
    (same : ∀ rule ∈ language.rules, rule.matchesBytes bytes = rule.matchesBytes bytes') :
    language.score bytes = language.score bytes' := by
  rw [score, score, List.filter_congr same]

theorem Scoreboard.tally_congr {registry : Registry} {s t : String}
    (same : ∀ language ∈ registry.languages, ∀ rule ∈ language.rules,
      rule.isMatch s = rule.isMatch t) : tally registry s = tally registry t := by
  rw [tally, tally, List.map_congr_left fun language declared =>
    Language.score_congr (same language declared)]

theorem Detector.detect_congr {detector : Detector} {s t : String}
    (same : Scoreboard.tally detector.registry s = Scoreboard.tally detector.registry t)
    (filename : Option String) : detector.detect s filename = detector.detect t filename := by
  have sameGround : detector.groundOfText s = detector.groundOfText t := by
    rw [groundOfText, groundOfText, score, score, same]
  rw [detect, detect, ground, ground, sameGround]

namespace Registry

/-- The rules of the built-in tables see the ASCII runs of a text one by one. Texts with the same
runs, and something between the same of them, are scored and detected alike. -/
theorem builtIn_seesAscii (profile : Profile) :
    ∃ registry, builtIn profile = .ok registry ∧
      (∀ language ∈ registry.languages, ∀ rule ∈ language.rules, ∀ text,
        rule.isMatch text = true ↔ ∃ run, IsAsciiRun text run ∧ rule.isMatch run = true) ∧
      ∀ s t : String, Recoded s.toList t.toList →
        Scoreboard.tally registry s = Scoreboard.tally registry t ∧
          ∀ detector : Detector, detector.registry = registry →
            ∀ filename, detector.detect s filename = detector.detect t filename := by
  obtain ⟨registry, built⟩ := exists_builtIn profile
  have confined : ∀ language ∈ registry.languages, ∀ rule ∈ language.rules,
      ∃ r, r.isConfined = true ∧ rule.searcher = .ofRegex r :=
    fun language declared rule isRule =>
      exists_regex_of_builtIn built declared isRule (BuiltIn.passes_isConfined profile)
  refine ⟨registry, built, ?_, ?_⟩
  · intro language declared rule isRule text
    obtain ⟨r, confined, searches⟩ := confined language declared rule isRule
    simp only [Rule.isMatch, Rule.matchesBytes, searches]
    exact Searcher.search_encode_iff confined text
  · intro s t recoded
    have same : Scoreboard.tally registry s = Scoreboard.tally registry t := by
      apply Scoreboard.tally_congr
      intro language declared rule isRule
      obtain ⟨r, confined, searches⟩ := confined language declared rule isRule
      simp only [Rule.isMatch, Rule.matchesBytes, searches]
      exact Searcher.search_encode_recoded confined recoded
    refine ⟨same, ?_⟩
    rintro detector rfl filename
    exact Detector.detect_congr same filename

/-- A word starts behind a letter that is not ASCII, whichever letter it is. -/
theorem builtIn_seesAscii_accented :
    ∃ registry, builtIn .compact = .ok registry ∧
      (Scoreboard.tally registry "éimport a").scoreOf? "python" = some 1 ∧
      Recoded "éimport a".toList "日本import a".toList ∧
      (Scoreboard.tally registry "日本import a").scoreOf? "python" = some 1 := by
  obtain ⟨registry, built, score⟩ : ∃ registry, builtIn .compact = .ok registry ∧
      (Scoreboard.tally registry "éimport a").scoreOf? "python" = some 1 := by
    apply exists_of_check
    decide +kernel
  have recoded : Recoded "éimport a".toList "日本import a".toList :=
    @Recoded.foreign ['é'] ['日', '本'] _ _ (.singleton rfl)
      ⟨List.cons_ne_nil _ _, List.forall_mem_cons.mpr ⟨rfl, List.forall_mem_singleton.mpr rfl⟩⟩
      (.refl "import a".toList)
  obtain ⟨registry', built', -, alike⟩ := builtIn_seesAscii .compact
  obtain rfl := Except.ok.inj (built.symm.trans built')
  exact ⟨registry, built, score, recoded, (alike _ _ recoded).1 ▸ score⟩

theorem exists_compact_import :
    ∃ registry, builtIn .compact = .ok registry ∧
      (Scoreboard.tally registry "Import A").scoreOf? "python" = some 1 := by
  apply exists_of_check
  decide +kernel

end Registry

end LanguageDetection
