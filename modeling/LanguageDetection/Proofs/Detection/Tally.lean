import LanguageDetection.Proofs.Detection.Verdict
import Mathlib.Algebra.BigOperators.Group.List.Basic
import Mathlib.Algebra.Ring.Nat

/-!
Boards of texts: one entry for each language, with the rules that match and what these weigh. What
is found under a name, the highest score and the leader are those of the entries.
-/

namespace LanguageDetection

theorem weightSum_eq_sum (rules : List Rule) :
    weightSum rules = (rules.map (·.weight.toNat)).sum := by
  induction rules with
  | nil => rfl
  | cons rule rest ih => rw [weightSum, ih, List.map_cons, List.sum_cons]

theorem toNat_weightOf_eq_min (rules : List Rule) :
    (weightOf rules).toNat = min (2 ^ 32 - 1) (rules.map (·.weight.toNat)).sum := by
  rw [toNat_weightOf, weightSum_eq_sum]
  rfl

/-- An entry for a language: which of its rules match, and their weights added up. -/
structure Score.Counts (entry : Score) (language : Language) (text : String) : Prop where
  language_eq : entry.language = language.id
  matched_eq : entry.matched = (language.rules.filter (·.isMatch text)).map (·.pattern)
  score_eq : entry.score.toNat =
    min (2 ^ 32 - 1) ((language.rules.filter (·.isMatch text)).map (·.weight.toNat)).sum
  score_eq_zero_iff : entry.score = 0 ↔ entry.matched = []

theorem Score.map_language_eq {languages : List Language} {entries : List Score} {text : String}
    (counts : List.Forall₂ (fun language entry => entry.Counts language text) languages entries) :
    entries.map (·.language) = languages.map (·.id) := by
  induction counts with
  | nil => rfl
  | cons first _ ih => rw [List.map_cons, List.map_cons, first.language_eq, ih]

theorem Language.counts_entry {language : Language}
    (weighted : ∀ rule ∈ language.rules, rule.weight ≠ 0) (text : String) :
    (language.entry text).Counts language text where
  language_eq := rfl
  matched_eq := rfl
  score_eq := toNat_weightOf_eq_min _
  score_eq_zero_iff := by
    have matching : ∀ rule ∈ language.matchingRules text, rule.weight ≠ 0 :=
      fun rule member => weighted rule (List.mem_filter.mp member).1
    have positive := weightOf_pos_iff matching
    rw [UInt32.pos_iff_ne_zero, not_iff_not] at positive
    change weightOf (language.matchingRules text) = 0 ↔
      (language.matchingRules text).map (·.pattern) = []
    rw [positive, List.map_eq_nil_iff]

namespace Registry

variable {registry : Registry}

theorem find?_of_mem (distinct : registry.ids.Nodup) {language : Language}
    (member : language ∈ registry.languages) :
    registry.languages.find? (·.id == language.id) = some language := by
  have there : (registry.languages.find? (·.id == language.id)).isSome = true :=
    List.find?_isSome.mpr ⟨language, member, beq_self_eq_true _⟩
  obtain ⟨other, found⟩ := Option.isSome_iff_exists.mp there
  have sameId : other.id = language.id := beq_iff_eq.mp (List.find?_some found :)
  rw [found, List.inj_on_of_nodup_map distinct (List.mem_of_find?_eq_some found) member sameId]

end Registry

namespace Scoreboard

variable {board : Scoreboard}

theorem le_maxScore {entry : Score} (member : entry ∈ board.entries) :
    entry.score ≤ board.maxScore := by
  rw [maxScore_eq]
  exact (leads_leader? board).score_le entry member

theorem maxScore_le_of_forall_le {bound : UInt32}
    (le : ∀ entry ∈ board.entries, entry.score ≤ bound) : board.maxScore ≤ bound := by
  rw [maxScore_eq]
  have leads := leads_leader? board
  cases found : board.leader? with
  | none => exact UInt32.zero_le
  | some leader =>
      rw [found] at leads
      obtain ⟨-, before, after, split, -⟩ := leads
      exact le leader (split ▸ List.mem_append_right _ List.mem_cons_self)

theorem leader?_eq_none_iff : board.leader? = none ↔ board.maxScore = 0 := by
  rw [maxScore_eq]
  have leads := leads_leader? board
  cases found : board.leader? with
  | none => simp [scoreOf]
  | some leader =>
      rw [found] at leads
      simp [scoreOf, UInt32.pos_iff_ne_zero.mp leads.1]

theorem leader?_eq_find? (positive : board.maxScore ≠ 0) :
    board.leader? = board.entries.find? (·.score == board.maxScore) := by
  have leads := leads_leader? board
  cases found : board.leader? with
  | none => exact absurd (leader?_eq_none_iff.mp found) positive
  | some leader =>
      rw [found] at leads
      obtain ⟨-, before, after, split, below, -⟩ := leads
      have isMax : board.maxScore = leader.score := by rw [maxScore_eq, found]; rfl
      symm
      rw [isMax, List.find?_eq_some_iff_append]
      refine ⟨beq_self_eq_true _, before, after, split, ?_⟩
      intro entry member
      simpa using UInt32.ne_of_lt (below entry member)

theorem exists_score_eq_maxScore (nonempty : board.entries ≠ []) :
    ∃ entry ∈ board.entries, entry.score = board.maxScore := by
  by_cases positive : board.maxScore = 0
  · obtain ⟨entry, member⟩ := List.exists_mem_of_ne_nil _ nonempty
    have le := le_maxScore member
    rw [positive] at le ⊢
    exact ⟨entry, member, UInt32.le_zero_iff.mp le⟩
  · have leads := leader?_eq_find? positive
    cases found : board.leader? with
    | none => exact absurd (leader?_eq_none_iff.mp found) positive
    | some leader =>
        rw [found] at leads
        exact ⟨leader, List.mem_of_find?_eq_some leads.symm,
          beq_iff_eq.mp (List.find?_some leads.symm :)⟩

theorem scoreOf?_tally (registry : Registry) (text id : String) :
    (tally registry text).scoreOf? id =
      (registry.languages.find? (·.id == id)).map fun language => (language.entry text).score := by
  rw [scoreOf?, tally, List.find?_map, Option.map_map]
  rfl

/-- A board on which each language of a registry has its entry, and what is read off it. -/
structure Tallies (board : Scoreboard) (registry : Registry) (text : String) : Prop where
  entries : List.Forall₂ (fun language entry => entry.Counts language text)
    registry.languages board.entries
  scoreOf?_of_mem : ∀ entry ∈ board.entries, board.scoreOf? entry.language = some entry.score
  scoreOf?_eq_none_iff : ∀ name, board.scoreOf? name = none ↔ name ∉ registry.ids
  totalWeight_eq : ∀ language ∈ registry.languages, language.totalWeight.toNat =
    min (2 ^ 32 - 1) (language.rules.map (·.weight.toNat)).sum
  le_maxScore : ∀ entry ∈ board.entries, entry.score ≤ board.maxScore
  maxScore_mem : ∃ entry ∈ board.entries, entry.score = board.maxScore
  leader?_eq_none_iff : board.leader? = none ↔ board.maxScore = 0
  leader?_eq_some_iff : ∀ leader, board.leader? = some leader ↔
    board.maxScore ≠ 0 ∧ leader.score = board.maxScore ∧ ∃ before after,
      board.entries = before ++ leader :: after ∧ ∀ entry ∈ before, entry.score ≠ board.maxScore

theorem tallies_tally {registry : Registry} (wellFormed : registry.WellFormed) (text : String) :
    (tally registry text).Tallies registry text := by
  constructor
  case entries =>
    refine List.forall₂_map_right_iff.mpr (List.forall₂_same.mpr ?_)
    intro language member
    exact Language.counts_entry (Detector.weight_ne_zero wellFormed member) text
  case scoreOf?_of_mem =>
    intro entry member
    obtain ⟨language, declared, rfl⟩ := List.mem_map.mp member
    rw [show (language.score _).language = language.id from rfl, scoreOf?_tally,
      Registry.find?_of_mem wellFormed.ids_nodup declared]
    rfl
  case scoreOf?_eq_none_iff =>
    intro name
    rw [scoreOf?_tally, Option.map_eq_none_iff, List.find?_eq_none, Registry.ids]
    simp
  case totalWeight_eq =>
    intro language _
    exact toNat_weightOf_eq_min language.rules
  case le_maxScore =>
    intro entry member
    exact Scoreboard.le_maxScore member
  case maxScore_mem =>
    refine exists_score_eq_maxScore ?_
    intro empty
    exact wellFormed.nonempty (List.map_eq_nil_iff.mp empty)
  case leader?_eq_none_iff => exact Scoreboard.leader?_eq_none_iff
  case leader?_eq_some_iff =>
    intro leader
    by_cases positive : (tally registry text).maxScore = 0
    · simp [Scoreboard.leader?_eq_none_iff.mpr positive, positive]
    · rw [leader?_eq_find? positive, List.find?_eq_some_iff_append]
      simp [positive]

/-- The board of a text over a registry that was built, whatever the rules weigh. -/
theorem tallies_ofSteps {start : Start} {steps : List Step} {registry : Registry}
    (built : (Draft.ofSteps start steps).build = .ok registry) (text : String) :
    (tally registry text).Tallies registry text :=
  tallies_tally ((Draft.builds_of_build_eq_ok built).wellFormed
    (Draft.describes_ofSteps start steps)) text

/-- Two languages whose weights add up to more than the greatest weight, and one that ends below it.
-/
def cutOff : List Step :=
  [.rule "go" "chan" 7, .rule "ml" "let" 4294967295, .rule "ml" "rec" 3,
    .rule "scheme" "rec" 4294967290, .rule "scheme" "let" 6]

theorem tallies_ofSteps_cutOff :
    ∃ registry, (Draft.ofSteps .empty cutOff).build = .ok registry ∧
      (tally registry "let rec").Tallies registry "let rec" ∧
      (tally registry "let rec").scoreOf? "ml" = some 4294967295 ∧
      (tally registry "let rec").scoreOf? "scheme" = some 4294967295 ∧
      (tally registry "let rec").scoreOf? "go" = some 0 ∧
      (tally registry "let rec").leader? = some ⟨"ml", 4294967295, ["let", "rec"]⟩ := by
  -- The patterns are run once, for the whole board.
  obtain ⟨registry, built, board⟩ :
      ∃ registry, (Draft.ofSteps .empty cutOff).build = .ok registry ∧
        (tally registry "let rec").entries =
          [⟨"go", 0, []⟩, ⟨"ml", 4294967295, ["let", "rec"]⟩,
            ⟨"scheme", 4294967295, ["rec", "let"]⟩] := by
    apply exists_of_check
    decide +kernel
  refine ⟨registry, built, tallies_ofSteps built "let rec", ?_⟩
  simp only [scoreOf?, leader?, board]
  decide

end Scoreboard

end LanguageDetection
