import LanguageDetection.Detection.Detector
import LanguageDetection.Proofs.Detection.Scoreboard
import LanguageDetection.Proofs.Signature.Invariant

/-!
Which language a text is taken for: the one of its filename, or the first of those whose matching
rules weigh most, or none if no rule matches.
-/

namespace LanguageDetection

namespace Detector

/-- A filename decides if it is consulted and its extension is mapped. -/
structure Resolves (detector : Detector) (filename : Option String) (language : String) : Prop where
  consulted : detector.extensionHint = true
  mapped : ∃ name extension, filename = some name ∧ Extension.ofFilename? name = some extension ∧
    detector.registry.languageForExtension? extension = some language

def HasMatch (detector : Detector) (text : String) : Prop :=
  ∃ language ∈ detector.registry.languages, ∃ rule ∈ language.rules, rule.isMatch text = true

variable {detector : Detector}

theorem languageOfFilename?_eq_some_iff {filename : Option String} {language : String} :
    detector.languageOfFilename? filename = some language ↔ detector.Resolves filename language := by
  unfold languageOfFilename?
  split
  · rename_i consulted
    rw [Option.bind_eq_some_iff]
    constructor
    · rintro ⟨extension, found, mapped⟩
      obtain ⟨name, given, ofName⟩ := Option.bind_eq_some_iff.mp found
      exact ⟨consulted, name, extension, given, ofName, mapped⟩
    · rintro ⟨-, name, extension, given, ofName, mapped⟩
      exact ⟨extension, Option.bind_eq_some_iff.mpr ⟨name, given, ofName⟩, mapped⟩
  · rename_i ignored
    constructor
    · intro found
      contradiction
    · rintro ⟨consulted, -⟩
      exact absurd consulted ignored

theorem not_resolves_none (language : String) : ¬ detector.Resolves none language := by
  rintro ⟨-, name, -, given, -⟩
  cases given

theorem languageOfFilename?_eq_none {filename : Option String}
    (unresolved : ∀ language, ¬ detector.Resolves filename language) :
    detector.languageOfFilename? filename = none := by
  rw [Option.eq_none_iff_forall_ne_some]
  intro language found
  exact unresolved language (languageOfFilename?_eq_some_iff.mp found)

theorem mem_ids_of_resolves (wellFormed : detector.registry.WellFormed) {filename : Option String}
    {language : String} (resolves : detector.Resolves filename language) :
    language ∈ detector.registry.ids := by
  obtain ⟨-, name, extension, -, -, mapped⟩ := resolves
  obtain ⟨kept, -, found⟩ := Option.bind_eq_some_iff.mp mapped
  exact wellFormed.mapped (kept, language) ((wellFormed.ascending.mem_iff _ _).mpr found)

theorem detect_of_resolves {text : String} {filename : Option String} {language : String}
    (resolves : detector.Resolves filename language) :
    detector.detect text filename = ⟨language, 0.9⟩ := by
  have clamped : clampUnit extensionConfidence = 0.9 := by decide
  rw [detect, ground, languageOfFilename?_eq_some_iff.mpr resolves, Ground.verdict, Verdict.new,
    clamped]

theorem weight_ne_zero {registry : Registry} (wellFormed : registry.WellFormed)
    {language : Language} (member : language ∈ registry.languages) : ∀ rule ∈ language.rules, rule.weight ≠ 0 := by
  intro rule inRules zero
  have one_le := wellFormed.one_le_weight language member rule inRules
  rw [zero] at one_le
  contradiction

theorem exists_winner (wellFormed : detector.registry.WellFormed) {text : String} {leader : Score}
    (found : (detector.score text).leader? = some leader) :
    ∃ winner, detector.registry.IsFirstBest text winner ∧ leader = winner.entry text ∧
      ∃ rule ∈ winner.rules, rule.isMatch text = true := by
  obtain ⟨positive, winner, firstBest, isEntry⟩ := Scoreboard.leader?_tally_eq_some found
  -- No rule weighs nothing, so a positive score comes from a match.
  rw [isEntry, Language.score_entry_pos_iff (weight_ne_zero wellFormed firstBest.mem)] at positive
  exact ⟨winner, firstBest, isEntry, positive⟩

theorem leader?_eq_none_iff (wellFormed : detector.registry.WellFormed) {text : String} :
    (detector.score text).leader? = none ↔ ¬ detector.HasMatch text := by
  constructor
  · rintro noLeader ⟨language, member, isMatch⟩
    rw [← Language.score_entry_pos_iff (weight_ne_zero wellFormed member),
      Scoreboard.leader?_tally_eq_none noLeader language member] at isMatch
    contradiction
  · intro noMatch
    rw [Option.eq_none_iff_forall_ne_some]
    intro leader found
    obtain ⟨winner, firstBest, -, isMatch⟩ := exists_winner wellFormed found
    exact noMatch ⟨winner, firstBest.mem, isMatch⟩

theorem detect_of_leader?_eq_none {text : String} {filename : Option String}
    (unresolved : ∀ language, ¬ detector.Resolves filename language)
    (noLeader : (detector.score text).leader? = none) :
    detector.detect text filename = ⟨"unknown", 0.3⟩ := by
  have clamped : clampUnit fallbackConfidence = 0.3 := by decide
  rw [detect, ground, languageOfFilename?_eq_none unresolved]
  simp only [groundOfText, noLeader]
  rw [Ground.verdict, Verdict.unknown, Verdict.new, clamped]
  rfl

section Scores

variable {text : String} {filename : Option String}
  (wellFormed : detector.registry.WellFormed)
  (unresolved : ∀ language, ¬ detector.Resolves filename language)

include wellFormed unresolved

theorem detect_of_not_hasMatch (noMatch : ¬ detector.HasMatch text) :
    detector.detect text filename = ⟨"unknown", 0.3⟩ :=
  detect_of_leader?_eq_none unresolved ((leader?_eq_none_iff wellFormed).mpr noMatch)

theorem detect_of_hasMatch (hasMatch : detector.HasMatch text) :
    ∃ winner, detector.registry.IsFirstBest text winner ∧
      (∃ rule ∈ winner.rules, rule.isMatch text = true) ∧
      (detector.detect text filename).language = winner.id := by
  cases found : (detector.score text).leader? with
  | none => exact absurd hasMatch ((leader?_eq_none_iff wellFormed).mp found)
  | some leader =>
      obtain ⟨winner, firstBest, isEntry, isMatch⟩ := exists_winner wellFormed found
      refine ⟨winner, firstBest, isMatch, ?_⟩
      rw [detect, ground, languageOfFilename?_eq_none unresolved]
      simp only [groundOfText, found]
      rw [isEntry]
      rfl

end Scores

/-- What a detector over a registry that was built answers. -/
theorem detect_ofSteps {start : Start} {steps : List Step} {registry : Registry}
    (built : (Draft.ofSteps start steps).build = .ok registry) (policy : Policy)
    (extensionHint : Bool) (text : String) (filename : Option String) :
    let detector : Detector := { registry, policy, extensionHint }
    let verdict := detector.detect text filename
    (∀ language, detector.Resolves filename language → verdict = ⟨language, 0.9⟩) ∧
    ((∀ language, ¬ detector.Resolves filename language) →
      (¬ detector.HasMatch text → verdict = ⟨"unknown", 0.3⟩) ∧
      (detector.HasMatch text → ∃ winner, registry.IsFirstBest text winner ∧
        (∃ rule ∈ winner.rules, rule.isMatch text = true) ∧ verdict.language = winner.id)) ∧
    (verdict.language = "unknown" ∨ verdict.language ∈ registry.ids) := by
  intro detector verdict
  have wellFormed : registry.WellFormed :=
    (Draft.builds_of_build_eq_ok built).wellFormed (Draft.describes_ofSteps start steps)
  refine ⟨fun language => detect_of_resolves, fun unresolved => ⟨?_, ?_⟩, ?_⟩
  · exact detect_of_not_hasMatch wellFormed unresolved
  · exact detect_of_hasMatch wellFormed unresolved
  · by_cases unresolved : ∀ language, ¬ detector.Resolves filename language
    · by_cases hasMatch : detector.HasMatch text
      · obtain ⟨winner, firstBest, -, named⟩ := detect_of_hasMatch wellFormed unresolved hasMatch
        right
        rw [named]
        exact List.mem_map_of_mem firstBest.mem
      · left
        rw [show verdict = _ from detect_of_not_hasMatch wellFormed unresolved hasMatch]
    · right
      push Not at unresolved
      obtain ⟨language, resolves⟩ := unresolved
      rw [show verdict = _ from detect_of_resolves resolves]
      exact mem_ids_of_resolves wellFormed resolves

/-- Two languages whose rules weigh the same, one of which has an extension. -/
def equalRules : List Step :=
  [.rule "c" "\\bgoto\\b" 2, .rule "cpp" "\\bstd::" 2, .extension "H" "cpp"]

theorem detect_ofSteps_equalRules :
    ∃ registry, (Draft.ofSteps .empty equalRules).build = .ok registry ∧
      let detector : Detector := { registry, policy := .relativeToLeader 0.98 }
      detector.detect "goto std::end;" (some "src/end.h") = ⟨"cpp", 0.9⟩ ∧
      detector.detect "" none = ⟨"unknown", 0.3⟩ ∧
      ∃ winner, registry.IsFirstBest "goto std::end;" winner ∧
        (∃ rule ∈ winner.rules, rule.isMatch "goto std::end;" = true) ∧
        (detector.detect "goto std::end;" none).language = winner.id := by
  obtain ⟨registry, built, mapped, noMatch, hasMatch⟩ :
      ∃ registry, (Draft.ofSteps .empty equalRules).build = .ok registry ∧
        registry.languageForExtension? ".h" = some "cpp" ∧
        (∀ language ∈ registry.languages, ∀ rule ∈ language.rules, ¬ rule.isMatch "" = true) ∧
        ∃ language ∈ registry.languages, ∃ rule ∈ language.rules,
          rule.isMatch "goto std::end;" = true := by
    apply exists_of_check
    decide +kernel
  have unnamed : ∀ language, ¬ Resolves ⟨registry, .relativeToLeader 0.98, true⟩ none language := by
    rintro language ⟨-, name, -, given, -⟩
    cases given
  have answers := detect_ofSteps built (.relativeToLeader 0.98) true
  refine ⟨registry, built, (answers _ (some "src/end.h")).1 "cpp" ?_, ((answers "" none).2.1 unnamed).1 ?_,
    ((answers _ none).2.1 unnamed).2 hasMatch⟩
  · exact ⟨rfl, "src/end.h", ".h", rfl, by decide +kernel, mapped⟩
  · rintro ⟨language, member, rule, inRules, isMatch⟩
    exact noMatch language member rule inRules isMatch

end Detector

end LanguageDetection
