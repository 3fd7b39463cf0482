import LanguageDetection.Proofs.Detection.Verdict
import LanguageDetection.Proofs.Double
import Mathlib.Algebra.Order.Field.Rat
import Mathlib.Tactic.Positivity

/-!
How sure a verdict is that rests on scores: the score of the winner is the highest on the board and
part of the weight of its rules, so that there is always something to divide by, and the quotient is
positive and at most one.
-/

namespace LanguageDetection

def Share.ratio (share : Share) : ℚ :=
  share.part.toNat / share.whole.toNat

namespace Share

variable {share : Share}

theorem ratio_pos (positive : 0 < share.part) (le : share.part ≤ share.whole) : 0 < share.ratio := by
  have partPos : 0 < share.part.toNat := UInt32.lt_iff_toNat_lt.mp positive
  have wholePos : 0 < share.whole.toNat := partPos.trans_le (UInt32.le_iff_toNat_le.mp le)
  rw [ratio]
  positivity

theorem ratio_le_one (positive : 0 < share.part) (le : share.part ≤ share.whole) :
    share.ratio ≤ 1 := by
  have partPos : 0 < share.part.toNat := UInt32.lt_iff_toNat_lt.mp positive
  have wholePos : 0 < share.whole.toNat := partPos.trans_le (UInt32.le_iff_toNat_le.mp le)
  rw [ratio, div_le_one (by exact_mod_cast wholePos)]
  exact_mod_cast UInt32.le_iff_toNat_le.mp le

theorem ratio_eq_one (positive : 0 < share.part) (same : share.part = share.whole) :
    share.ratio = 1 := by
  have wholePos : 0 < share.whole.toNat := by
    rw [← same]
    exact UInt32.lt_iff_toNat_lt.mp positive
  rw [ratio, same, div_self]
  exact_mod_cast wholePos.ne'

theorem toFloat_eq_div (nonzero : share.whole ≠ 0) :
    share.toFloat = share.part.toFloat / share.whole.toFloat := if_neg nonzero

theorem toFloat_eq_one (positive : 0 < share.part) (same : share.part = share.whole) :
    share.toFloat = 1.0 := by
  have nonzero : share.whole ≠ 0 := by
    rw [← same]
    exact UInt32.pos_iff_ne_zero.mp positive
  rw [toFloat_eq_div nonzero, same, Double.toFloat_div_self nonzero]

theorem exists_parts?_toFloat (positive : 0 < share.part) (le : share.part ≤ share.whole) :
    ∃ m e, Double.parts? share.toFloat = some (m, e) ∧ share.toFloat ≤ 1.0 := by
  have nonzero : share.whole ≠ 0 :=
    UInt32.pos_iff_ne_zero.mp (UInt32.lt_of_lt_of_le positive le)
  rw [toFloat_eq_div nonzero]
  exact Double.exists_parts?_div (UInt32.pos_iff_ne_zero.mp positive) le

end Share

theorem clampUnit_clampUnit (x : Float) : clampUnit (clampUnit x) = clampUnit x := by
  by_cases below : x < 0.0
  · have zero : clampUnit x = 0.0 := if_pos below
    rw [zero]
    decide
  · by_cases above : 1.0 < x
    · have one : clampUnit x = 1.0 := by rw [clampUnit, if_neg below, if_pos above]
      rw [one]
      decide
    · have same : clampUnit x = x := by rw [clampUnit, if_neg below, if_neg above]
      rw [same, same]

namespace Policy

theorem clampUnit_standardCap : clampUnit (atMost standardCap 1.0) = 0.98 := by decide

theorem exists_parts?_compactCap : ∃ m e, Double.parts? compactCap = some (m, e) := by
  obtain ⟨⟨m, e⟩, parts⟩ := Option.isSome_iff_exists.mp
    (show (Double.parts? compactCap).isSome = true by decide +kernel)
  exact ⟨m, e, parts⟩

/-- Below the compact cap a share of a whole is kept as it is. -/
theorem clampUnit_compactCap {x : Float} {m : Nat} {e : Int} (parts : Double.parts? x = some (m, e))
    (le_one : x ≤ 1.0) :
    0.0 < clampUnit (atMost compactCap x) ∧ clampUnit (atMost compactCap x) ≤ compactCap := by
  obtain ⟨m', e', capParts⟩ := exists_parts?_compactCap
  rw [atMost]
  split
  · decide
  · rename_i notAbove
    have same : clampUnit x = x := by
      rw [clampUnit, if_neg (Double.not_lt_zero parts),
        if_neg (Double.not_lt_of_le parts Double.parts?_one le_one)]
    rw [same]
    exact ⟨Double.zero_lt parts, Double.le_of_not_lt capParts parts notAbove⟩

end Policy

namespace Detector

variable {registry : Registry} {policy : Policy} {extensionHint : Bool} {text : String}
  {filename : Option String} {leader : Score}

theorem language?_of_mem (wellFormed : registry.WellFormed) {language : Language}
    (member : language ∈ registry.languages) : registry.language? language.id = some language := by
  obtain ⟨place, inRange, atPlace⟩ := List.getElem_of_mem member
  have found : registry.languages[place]? = some language := by
    rw [List.getElem?_eq_getElem inRange, atPlace]
  rw [wellFormed.language?_iff language.id place language found, Registry.ids, List.getElem?_map,
    found]
  rfl

structure Leading (registry : Registry) (text : String) (leader : Score) (winner : Language) :
    Prop where
  declared : registry.language? leader.language = some winner
  isEntry : leader = winner.entry text
  positive : 0 < leader.score
  isMax : leader.score = (Scoreboard.tally registry text).maxScore
  le_total : leader.score ≤ winner.totalWeight

theorem exists_leading (wellFormed : registry.WellFormed)
    (found : (Scoreboard.tally registry text).leader? = some leader) :
    ∃ winner, Leading registry text leader winner := by
  obtain ⟨positive, winner, firstBest, isEntry⟩ := Scoreboard.leader?_tally_eq_some found
  refine ⟨winner, ?_, isEntry, positive, ?_, ?_⟩
  · rw [isEntry]
    exact language?_of_mem wellFormed firstBest.mem
  · rw [Scoreboard.maxScore_eq, found]
    rfl
  · -- Some of the rules weigh at most as much as all, also when either sum is cut off.
    rw [isEntry]
    exact weightOf_le_of_sublist List.filter_sublist

namespace Leading

variable {winner : Language} (leading : Leading registry text leader winner)

include leading

theorem maxScore_le : (Scoreboard.tally registry text).maxScore ≤ winner.totalWeight :=
  leading.isMax ▸ leading.le_total

theorem totalWeight_ne_zero : winner.totalWeight ≠ 0 :=
  UInt32.pos_iff_ne_zero.mp (UInt32.lt_of_lt_of_le leading.positive leading.le_total)

theorem whole_ne_zero (policy : Policy) :
    (policy.share leader.score (Scoreboard.tally registry text).maxScore
      winner.totalWeight).whole ≠ 0 := by
  cases policy with
  | relativeToLeader cap =>
      rw [Policy.share, ← leading.isMax]
      exact UInt32.pos_iff_ne_zero.mp leading.positive
  | ruleCoverage cap => exact leading.totalWeight_ne_zero

theorem score_eq_totalWeight (allMatch : ∀ rule ∈ winner.rules, rule.isMatch text = true) :
    leader.score = winner.totalWeight := by
  rw [leading.isEntry, Language.score_entry, Language.matchingRules,
    List.filter_eq_self.mpr allMatch]
  rfl

theorem detect_eq
    (unresolved : ∀ language, ¬ Resolves ⟨registry, policy, extensionHint⟩ filename language)
    (found : (Scoreboard.tally registry text).leader? = some leader) :
    detect ⟨registry, policy, extensionHint⟩ text filename = ⟨leader.language,
      clampUnit (Policy.atMost policy.cap (policy.share leader.score
        (Scoreboard.tally registry text).maxScore winner.totalWeight).toFloat)⟩ := by
  rw [detect, ground, languageOfFilename?_eq_none unresolved]
  simp only [groundOfText, score, found, totalWeight, leading.declared, Option.map_some,
    Option.getD_some]
  rw [Ground.verdict, Verdict.new, Policy.confidence, clampUnit_clampUnit]

end Leading

/-- What a confidence means that rests on scores, under either policy. -/
theorem confidence_ofSteps {start : Start} {steps : List Step}
    (built : (Draft.ofSteps start steps).build = .ok registry)
    (unresolved : ∀ language, ¬ Resolves ⟨registry, policy, extensionHint⟩ filename language)
    (found : (Scoreboard.tally registry text).leader? = some leader) :
    let board := Scoreboard.tally registry text
    let verdict := detect ⟨registry, policy, extensionHint⟩ text filename
    ∃ winner, registry.language? leader.language = some winner ∧
      verdict.language = leader.language ∧
      0 < leader.score ∧ leader.score = board.maxScore ∧ board.maxScore ≤ winner.totalWeight ∧
      winner.totalWeight.toNat ≤ 2 ^ 32 - 1 ∧
      (policy.share leader.score board.maxScore winner.totalWeight).whole ≠ 0 ∧
      (∀ cap, policy = .relativeToLeader cap →
        let share : Share := ⟨leader.score, board.maxScore⟩
        share.ratio = 1 ∧ share.toFloat = 1.0 ∧
        verdict.confidence = clampUnit (Policy.atMost cap 1.0)) ∧
      (∀ cap, policy = .ruleCoverage cap →
        let share : Share := ⟨leader.score, winner.totalWeight⟩
        (0 < share.ratio ∧ share.ratio ≤ 1) ∧ (0.0 < share.toFloat ∧ share.toFloat ≤ 1.0) ∧
        ((∀ rule ∈ winner.rules, rule.isMatch text = true) →
          share.ratio = 1 ∧ share.toFloat = 1.0) ∧
        verdict.confidence = clampUnit (Policy.atMost cap
          (leader.score.toFloat / winner.totalWeight.toFloat))) ∧
      (policy = .ofProfile .standard → verdict.confidence = 0.98) ∧
      (policy = .ofProfile .compact → 0.0 < verdict.confidence ∧ verdict.confidence ≤ 0.8) := by
  intro board verdict
  have wellFormed : registry.WellFormed :=
    (Draft.builds_of_build_eq_ok built).wellFormed (Draft.describes_ofSteps start steps)
  obtain ⟨winner, leading⟩ := exists_leading wellFormed found
  have positive := leading.positive
  have isMax : leader.score = board.maxScore := leading.isMax
  have le_total := leading.le_total
  have verdict_eq : verdict = _ := leading.detect_eq unresolved found
  have highest : Share.toFloat ⟨leader.score, board.maxScore⟩ = 1.0 :=
    Share.toFloat_eq_one positive isMax
  obtain ⟨m, e, parts, le_one⟩ := Share.exists_parts?_toFloat
    (show 0 < (Share.mk leader.score winner.totalWeight).part from positive) le_total
  refine ⟨winner, leading.declared, by rw [verdict_eq], positive, isMax, leading.maxScore_le,
    Nat.le_pred_of_lt winner.totalWeight.toNat_lt, leading.whole_ne_zero policy, ?_, ?_, ?_, ?_⟩
  · rintro cap rfl
    refine ⟨Share.ratio_eq_one positive isMax, highest, ?_⟩
    rw [verdict_eq, Policy.share, highest]
    rfl
  · rintro cap rfl
    refine ⟨⟨Share.ratio_pos positive le_total, Share.ratio_le_one positive le_total⟩,
      ⟨Double.zero_lt parts, le_one⟩, ?_, ?_⟩
    · intro allMatch
      have whole := leading.score_eq_totalWeight allMatch
      exact ⟨Share.ratio_eq_one positive whole, Share.toFloat_eq_one positive whole⟩
    · rw [verdict_eq, Policy.share, Share.toFloat_eq_div leading.totalWeight_ne_zero]
      rfl
  · rintro rfl
    rw [verdict_eq]
    change clampUnit (Policy.atMost Policy.standardCap (Share.toFloat ⟨_, board.maxScore⟩)) = 0.98
    rw [highest]
    exact Policy.clampUnit_standardCap
  · rintro rfl
    rw [verdict_eq]
    exact Policy.clampUnit_compactCap parts le_one

/-- Rules whose weights add up to more than the greatest weight. -/
def heavyRules : List Step :=
  [.rule "ml" "\\blet\\b" 4294967295, .rule "ml" "\\brec\\b" 7, .rule "c" ";" 1]

theorem confidence_ofSteps_heavyRules :
    ∃ registry leader winner, (Draft.ofSteps .empty heavyRules).build = .ok registry ∧
      (Scoreboard.tally registry "rec;").leader? = some leader ∧
      registry.language? leader.language = some winner ∧
      0 < leader.score ∧ leader.score = (Scoreboard.tally registry "rec;").maxScore ∧
      (Scoreboard.tally registry "rec;").maxScore ≤ winner.totalWeight ∧
      0.0 < (detect ⟨registry, .ofProfile .compact, true⟩ "rec;" none).confidence ∧
      (detect ⟨registry, .ofProfile .compact, true⟩ "rec;" none).confidence ≤ 0.8 := by
  obtain ⟨registry, built, scored⟩ :
      ∃ registry, (Draft.ofSteps .empty heavyRules).build = .ok registry ∧
        (Scoreboard.tally registry "rec;").leader?.isSome = true := by
    apply exists_of_check
    decide +kernel
  obtain ⟨leader, found⟩ := Option.isSome_iff_exists.mp scored
  have unnamed : ∀ language,
      ¬ Resolves ⟨registry, .ofProfile .compact, true⟩ none language := by
    rintro language ⟨-, name, -, given, -⟩
    cases given
  obtain ⟨winner, declared, -, positive, isMax, le_total, -, -, -, -, -, compact⟩ :=
    confidence_ofSteps built unnamed found
  exact ⟨registry, leader, winner, built, found, declared, positive, isMax, le_total, compact rfl⟩

end Detector

end LanguageDetection
