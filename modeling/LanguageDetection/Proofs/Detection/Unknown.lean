import LanguageDetection.Proofs.Detection.Verdict

/-!
Verdicts that nothing is known: a verdict has that name if nothing decides, or if what decides is a
language declared by that name. Where no such language is declared, the name says that no rule
matches.
-/

namespace LanguageDetection

theorem Registry.IsFirstBest.unique {registry : Registry} {text : String} {winner other : Language}
    (best : registry.IsFirstBest text winner) (otherBest : registry.IsFirstBest text other) :
    winner = other := by
  have notBelow := best.best other otherBest.mem
  have notAbove := otherBest.best winner best.mem
  obtain ⟨before, after, split, below⟩ := best.first
  obtain ⟨before', after', split', below'⟩ := otherBest.first
  rw [split] at split'
  -- If one stood before the other, its score would be lower than that of the other.
  rcases List.append_eq_append_iff.mp split' with ⟨between, longer, rest⟩ | ⟨between, longer, rest⟩
  · cases between with
    | nil => exact (List.cons.inj rest).1
    | cons first more =>
        obtain ⟨rfl, -⟩ := List.cons.inj rest
        have lower := below' winner (by simp [longer])
        omega
  · cases between with
    | nil => exact (List.cons.inj rest).1.symm
    | cons first more =>
        obtain ⟨rfl, -⟩ := List.cons.inj rest
        have lower := below other (by simp [longer])
        omega

namespace Detector

/-- The language that a filename or, failing that, the scores decide for. -/
inductive Decides (detector : Detector) (text : String) (filename : Option String) :
    String → Prop
  | filename {language : String} (resolves : detector.Resolves filename language) :
      Decides detector text filename language
  | scores {winner : Language} (unresolved : ∀ language, ¬ detector.Resolves filename language)
      (firstBest : detector.registry.IsFirstBest text winner)
      (isMatch : ∃ rule ∈ winner.rules, rule.isMatch text = true) :
      Decides detector text filename winner.id

section WellFormed

variable {detector : Detector} {text : String} {filename : Option String} {language : String}
  (wellFormed : detector.registry.WellFormed)

include wellFormed

theorem mem_ids_of_decides (decides : detector.Decides text filename language) :
    language ∈ detector.registry.ids := by
  cases decides with
  | filename resolves => exact mem_ids_of_resolves wellFormed resolves
  | scores unresolved firstBest isMatch => exact List.mem_map_of_mem firstBest.mem

theorem language_of_decides (decides : detector.Decides text filename language) :
    (detector.detect text filename).language = language := by
  cases decides with
  | filename resolves => rw [detect_of_resolves resolves]
  | scores unresolved firstBest isMatch =>
      have hasMatch : detector.HasMatch text := ⟨_, firstBest.mem, isMatch⟩
      obtain ⟨winner, winnerBest, -, named⟩ := detect_of_hasMatch wellFormed unresolved hasMatch
      rw [named, winnerBest.unique firstBest]

theorem exists_decides
    (decided : ¬ ((∀ language, ¬ detector.Resolves filename language) ∧ ¬ detector.HasMatch text)) :
    ∃ language, detector.Decides text filename language := by
  by_cases unresolved : ∀ language, ¬ detector.Resolves filename language
  · have hasMatch : detector.HasMatch text := by
      by_contra noMatch
      exact decided ⟨unresolved, noMatch⟩
    obtain ⟨winner, firstBest, isMatch, -⟩ := detect_of_hasMatch wellFormed unresolved hasMatch
    exact ⟨winner.id, .scores unresolved firstBest isMatch⟩
  · push Not at unresolved
    obtain ⟨language, resolves⟩ := unresolved
    exact ⟨language, .filename resolves⟩

theorem isUnknown_detect_iff :
    (detector.detect text filename).isUnknown = true ↔
      ((∀ language, ¬ detector.Resolves filename language) ∧ ¬ detector.HasMatch text) ∨
        detector.Decides text filename "unknown" := by
  rw [Verdict.isUnknown, beq_iff_eq]
  constructor
  · intro named
    by_cases nothing :
        (∀ language, ¬ detector.Resolves filename language) ∧ ¬ detector.HasMatch text
    · exact Or.inl nothing
    · obtain ⟨language, decides⟩ := exists_decides wellFormed nothing
      have isNamed : language = "unknown" :=
        (language_of_decides wellFormed decides).symm.trans named
      exact Or.inr (isNamed ▸ decides)
  · rintro (⟨unresolved, noMatch⟩ | decides)
    · rw [detect_of_not_hasMatch wellFormed unresolved noMatch]
      rfl
    · exact language_of_decides wellFormed decides

end WellFormed

/-- When a verdict says that nothing is known, over any registry that was built. -/
theorem isUnknown_ofSteps {start : Start} {steps : List Step} {registry : Registry}
    (built : (Draft.ofSteps start steps).build = .ok registry) (policy : Policy)
    (extensionHint : Bool) (text : String) (filename : Option String) :
    let detector : Detector := { registry, policy, extensionHint }
    let verdict := detector.detect text filename
    (verdict.isUnknown = true ↔
      ((∀ language, ¬ detector.Resolves filename language) ∧ ¬ detector.HasMatch text) ∨
        detector.Decides text filename "unknown") ∧
    ("unknown" ∉ registry.ids →
      (verdict.isUnknown = true ↔
        (∀ language, ¬ detector.Resolves filename language) ∧ ¬ detector.HasMatch text) ∧
      (verdict.isUnknown = true → verdict.confidence = 0.3)) := by
  intro detector verdict
  have wellFormed : registry.WellFormed :=
    (Draft.builds_of_build_eq_ok built).wellFormed (Draft.describes_ofSteps start steps)
  have unknown_iff : verdict.isUnknown = true ↔ _ :=
    isUnknown_detect_iff wellFormed
  refine ⟨unknown_iff, fun undeclared => ?_⟩
  have undecided : ¬ detector.Decides text filename "unknown" := fun decides =>
    undeclared (mem_ids_of_decides wellFormed decides)
  rw [unknown_iff, or_iff_left undecided]
  refine ⟨Iff.rfl, ?_⟩
  rintro ⟨unresolved, noMatch⟩
  rw [show verdict = _ from detect_of_not_hasMatch wellFormed unresolved noMatch]

theorem isUnknown_ofSteps_gotoRule :
    ∃ registry, (Draft.ofSteps .empty [.rule "c" "\\bgoto\\b" 2]).build = .ok registry ∧
      "unknown" ∉ registry.ids ∧
      (detect ⟨registry, .relativeToLeader 0.98, true⟩ "goto" none).isUnknown = false ∧
      (detect ⟨registry, .relativeToLeader 0.98, true⟩ "" none).isUnknown = true ∧
      (detect ⟨registry, .relativeToLeader 0.98, true⟩ "" none).confidence = 0.3 := by
  obtain ⟨registry, built, undeclared, hasMatch, noMatch⟩ :
      ∃ registry, (Draft.ofSteps .empty [.rule "c" "\\bgoto\\b" 2]).build = .ok registry ∧
        "unknown" ∉ registry.ids ∧
        (∃ language ∈ registry.languages, ∃ rule ∈ language.rules, rule.isMatch "goto" = true) ∧
        ∀ language ∈ registry.languages, ∀ rule ∈ language.rules, ¬ rule.isMatch "" = true := by
    apply exists_of_check
    decide +kernel
  have answers := fun text =>
    (isUnknown_ofSteps built (.relativeToLeader 0.98) true text none).2 undeclared
  have isUnknown : (detect ⟨registry, .relativeToLeader 0.98, true⟩ "" none).isUnknown = true := by
    refine (answers "").1.mpr ⟨not_resolves_none, ?_⟩
    rintro ⟨language, member, rule, inRules, isMatch⟩
    exact noMatch language member rule inRules isMatch
  refine ⟨registry, built, undeclared, ?_, isUnknown, (answers "").2 isUnknown⟩
  rw [Bool.eq_false_iff, Ne, (answers "goto").1]
  exact fun nothing => nothing.2 hasMatch

/-- A language may be declared by the name of the verdict that nothing is known. -/
theorem isUnknown_detect_declaredUnknown :
    ∃ registry, (Draft.ofSteps .empty [.rule "unknown" "x" 1]).build = .ok registry ∧
      HasMatch ⟨registry, .relativeToLeader 0.98, true⟩ "x" ∧
      (detect ⟨registry, .relativeToLeader 0.98, true⟩ "x" none).isUnknown = true ∧
      (detect ⟨registry, .relativeToLeader 0.98, true⟩ "x" none).confidence = 0.98 := by
  obtain ⟨registry, built, hasMatch, verdict⟩ :
      ∃ registry, (Draft.ofSteps .empty [.rule "unknown" "x" 1]).build = .ok registry ∧
        (∃ language ∈ registry.languages, ∃ rule ∈ language.rules, rule.isMatch "x" = true) ∧
        (detect ⟨registry, .relativeToLeader 0.98, true⟩ "x" none).isUnknown = true ∧
        (detect ⟨registry, .relativeToLeader 0.98, true⟩ "x" none).confidence = 0.98 := by
    apply exists_of_check
    decide +kernel
  exact ⟨registry, built, hasMatch, verdict⟩

end Detector

end LanguageDetection
