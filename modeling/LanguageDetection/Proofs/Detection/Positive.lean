import LanguageDetection.Proofs.Detection.Confidence
import LanguageDetection.Proofs.Signature.Layering

/-!
The confidence of a verdict is a positive double, whatever the settings.
-/

namespace LanguageDetection

theorem Registry.wellFormed_of_ofSettings {settings : Settings} {registry : Registry}
    (built : Registry.ofSettings settings = .ok registry) : registry.WellFormed := by
  rw [Registry.ofSettings_eq] at built
  exact (Draft.builds_of_build_eq_ok built).wellFormed
    (Draft.describes_ofSteps (.builtIn settings.profile) [.settings settings])

def IsPositive (x : Float) : Prop :=
  ∃ m e, Double.parts? x = some (m, e)

theorem isPositive_of_isSome {x : Float} (parts : (Double.parts? x).isSome = true) :
    IsPositive x := by
  obtain ⟨⟨m, e⟩, found⟩ := Option.isSome_iff_exists.mp parts
  exact ⟨m, e, found⟩

namespace Policy

theorem isPositive_compact {x : Float} (positive : IsPositive x) (le_one : x ≤ 1.0) :
    IsPositive (clampUnit (atMost compactCap x)) := by
  rw [atMost]
  split
  · exact isPositive_of_isSome (by decide +kernel)
  · obtain ⟨m, e, parts⟩ := positive
    rw [clampUnit, if_neg (Double.not_lt_zero parts),
      if_neg (Double.not_lt_of_le parts Double.parts?_one le_one)]
    exact ⟨m, e, parts⟩

theorem isPositive_confidence (profile : Profile) {winner highest total : UInt32}
    (positive : 0 < winner) (isMax : winner = highest) (le_total : winner ≤ total) :
    IsPositive ((ofProfile profile).confidence winner highest total) := by
  cases profile with
  | standard =>
      -- The winner is the leader, so its share is one and the cap is all that is left.
      have whole : Share.toFloat ⟨winner, highest⟩ = 1.0 := Share.toFloat_eq_one positive isMax
      change IsPositive (clampUnit (atMost standardCap (Share.toFloat ⟨winner, highest⟩)))
      rw [whole, clampUnit_standardCap]
      exact isPositive_of_isSome (by decide +kernel)
  | compact =>
      obtain ⟨m, e, parts, le_one⟩ := Share.exists_parts?_toFloat
        (show 0 < (Share.mk winner total).part from positive) le_total
      exact isPositive_compact ⟨m, e, parts⟩ le_one

end Policy

theorem Detector.exists_registry {settings : Settings} {detector : Detector}
    (built : ofSettings settings = .ok detector) :
    ∃ registry, Registry.ofSettings settings = .ok registry ∧
      withSettings registry settings = detector := by
  unfold ofSettings at built
  cases accepted : Registry.ofSettings settings with
  | error error =>
      rw [accepted] at built
      contradiction
  | ok registry =>
      rw [accepted] at built
      exact ⟨registry, rfl, Except.ok.inj built⟩

theorem Detector.isPositive_detect {settings : Settings} {detector : Detector}
    (built : ofSettings settings = .ok detector) (text : String) (filename : Option String) :
    IsPositive (detector.detect text filename).confidence := by
  obtain ⟨registry, accepted, rfl⟩ := exists_registry built
  rw [detect, ground]
  cases languageOfFilename? (withSettings registry settings) filename with
  | some language =>
      change IsPositive (clampUnit extensionConfidence)
      exact isPositive_of_isSome (by decide +kernel)
  | none =>
      cases found : (score (withSettings registry settings) text).leader? with
      | none =>
          simp only [groundOfText, found]
          exact isPositive_of_isSome (by decide +kernel)
      | some leader =>
          obtain ⟨winner, leading⟩ :=
            exists_leading (Registry.wellFormed_of_ofSettings accepted) found
          have total : (withSettings registry settings).totalWeight leader.language =
              winner.totalWeight := by
            simp [totalWeight, withSettings, leading.declared]
          simp only [groundOfText, found, Ground.verdict, Verdict.new, total]
          rw [Policy.confidence, clampUnit_clampUnit]
          exact Policy.isPositive_confidence settings.profile leading.positive leading.isMax
            leading.le_total

end LanguageDetection
