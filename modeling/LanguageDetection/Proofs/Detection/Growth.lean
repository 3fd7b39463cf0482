import LanguageDetection.Proofs.Detection.Confidence
import LanguageDetection.Proofs.Signature.Growth

/-!
Verdicts of a registry that grows: languages that are added change a verdict only if one of them
scores higher than all that were there, and then the best of them wins.
-/

namespace LanguageDetection

namespace Scoreboard

variable {best : Option Score} {more : List Score}

theorem better_of_le {entry : Score} (le : entry.score ≤ scoreOf best) : better best entry = best :=
  if_neg (UInt32.not_lt.mpr le)

theorem better_of_lt {entry : Score} (lt : scoreOf best < entry.score) :
    better best entry = some entry :=
  if_pos lt

theorem foldl_better_of_le (le : ∀ entry ∈ more, entry.score ≤ scoreOf best) :
    more.foldl better best = best := by
  induction more with
  | nil => rfl
  | cons entry rest ih =>
      rw [List.foldl_cons, better_of_le (le entry List.mem_cons_self)]
      exact ih fun other member => le other (List.mem_cons_of_mem _ member)

theorem foldl_better_of_lt (lt : ∃ entry ∈ more, scoreOf best < entry.score) :
    more.foldl better best = more.foldl better none := by
  -- With a better entry still to come it makes no difference what is the best so far.
  induction more generalizing best with
  | nil =>
      obtain ⟨entry, member, -⟩ := lt
      contradiction
  | cons entry rest ih =>
      rw [List.foldl_cons, List.foldl_cons]
      by_cases above : scoreOf best < entry.score
      · have positive : scoreOf none < entry.score :=
          UInt32.lt_of_le_of_lt UInt32.zero_le above
        rw [better_of_lt above, better_of_lt positive]
      · rw [better_of_le (UInt32.not_lt.mp above)]
        obtain ⟨highest, member, higher⟩ := lt
        have inRest : highest ∈ rest := by
          rcases List.mem_cons.mp member with rfl | inRest
          · exact absurd higher above
          · exact inRest
        have below : scoreOf (better none entry) < highest.score := by
          have entryBelow := UInt32.lt_of_le_of_lt (UInt32.not_lt.mp above) higher
          rw [scoreOf_better]
          change (if 0 ≤ entry.score then entry.score else 0) < highest.score
          rwa [if_pos UInt32.zero_le]
        rw [ih ⟨highest, inRest, higher⟩, ih ⟨highest, inRest, below⟩]

end Scoreboard

namespace Registry.Extends

open Scoreboard

variable {registry registry' : Registry} {added : List Language} {text : String}
  (extends' : registry'.Extends registry added)

include extends'

theorem entries_tally :
    (tally registry' text).entries =
      (tally registry text).entries ++ added.map (·.entry text) := by
  rw [tally, extends'.languages, List.map_append]
  rfl

theorem find?_entries {id : String} (known : id ∈ registry.ids) :
    (tally registry' text).entries.find? (·.language == id) =
      (tally registry text).entries.find? (·.language == id) := by
  have there : ((tally registry text).entries.find? (·.language == id)).isSome = true := by
    obtain ⟨language, member, rfl⟩ := List.mem_map.mp known
    rw [List.find?_isSome]
    exact ⟨language.entry text, List.mem_map_of_mem member, beq_self_eq_true _⟩
  obtain ⟨entry, found⟩ := Option.isSome_iff_exists.mp there
  rw [extends'.entries_tally, List.find?_append, found, Option.some_or]

theorem leader?_of_le
    (le : ∀ language ∈ added,
      (language.entry text).score ≤ scoreOf (tally registry text).leader?) :
    (tally registry' text).leader? = (tally registry text).leader? := by
  rw [leader?, extends'.entries_tally, List.foldl_append]
  refine foldl_better_of_le ?_
  intro entry member
  obtain ⟨language, inAdded, rfl⟩ := List.mem_map.mp member
  exact le language inAdded

theorem exists_winner_of_lt
    (lt : ∃ language ∈ added,
      scoreOf (tally registry text).leader? < (language.entry text).score) :
    ∃ winner, IsFirstBest { registry' with languages := added } text winner ∧
      (tally registry' text).leader? = some (winner.entry text) := by
  obtain ⟨language, inAdded, higher⟩ := lt
  have alone : (tally registry' text).leader? =
      (tally { registry' with languages := added } text).leader? := by
    rw [leader?, extends'.entries_tally, List.foldl_append]
    exact foldl_better_of_lt ⟨language.entry text, List.mem_map_of_mem inAdded, higher⟩
  cases found : (tally { registry' with languages := added } text).leader? with
  | none =>
      rw [leader?_tally_eq_none found language inAdded] at higher
      exact absurd higher (UInt32.not_lt.mpr UInt32.zero_le)
  | some leader =>
      obtain ⟨-, winner, firstBest, isEntry⟩ := leader?_tally_eq_some found
      exact ⟨winner, firstBest, by rw [alone, found, isEntry]⟩

end Registry.Extends

namespace Detector

variable {registry registry' : Registry}

section Extends

variable {added : List Language} {text : String} (extends' : registry'.Extends registry added)

include extends'

theorem totalWeight_of_extends (wellFormed : registry.WellFormed)
    (wellFormed' : registry'.WellFormed) {language : Language}
    (member : language ∈ registry.languages) (policy : Policy) (extensionHint : Bool) :
    totalWeight ⟨registry', policy, extensionHint⟩ language.id =
      totalWeight ⟨registry, policy, extensionHint⟩ language.id := by
  have member' : language ∈ registry'.languages := by
    rw [extends'.languages]
    exact List.mem_append_left _ member
  simp only [totalWeight, language?_of_mem wellFormed member, language?_of_mem wellFormed' member']

theorem detect_of_extends (wellFormed : registry.WellFormed) (wellFormed' : registry'.WellFormed)
    (same : (Scoreboard.tally registry' text).leader? = (Scoreboard.tally registry text).leader?)
    (policy : Policy) (extensionHint : Bool) (filename : Option String) :
    detect ⟨registry', policy, extensionHint⟩ text filename =
      detect ⟨registry, policy, extensionHint⟩ text filename := by
  have resolved : languageOfFilename? ⟨registry', policy, extensionHint⟩ filename =
      languageOfFilename? ⟨registry, policy, extensionHint⟩ filename := by
    unfold languageOfFilename? Registry.languageForExtension?
    simp only [extends'.extensions]
  have scored : groundOfText ⟨registry', policy, extensionHint⟩ text =
      groundOfText ⟨registry, policy, extensionHint⟩ text := by
    unfold groundOfText score
    simp only [Scoreboard.maxScore_eq, same]
    cases found : (Scoreboard.tally registry text).leader? with
    | none => rfl
    | some leader =>
        obtain ⟨-, winner, firstBest, rfl⟩ := Scoreboard.leader?_tally_eq_some found
        have weight := totalWeight_of_extends extends' wellFormed wellFormed' firstBest.mem policy
          extensionHint
        simp only [Language.entry, Language.score, weight]
  rw [detect, detect, ground, ground, resolved, scored]

/-- The name of the leader tells whether a language that was added leads. -/
theorem leader?_eq_of_language_eq
    (sameName : (Scoreboard.tally registry' text).leader?.map (·.language) =
      (Scoreboard.tally registry text).leader?.map (·.language)) :
    (Scoreboard.tally registry' text).leader? = (Scoreboard.tally registry text).leader? := by
  by_cases overtaken : ∃ language ∈ added,
      Scoreboard.scoreOf (Scoreboard.tally registry text).leader? < (language.entry text).score
  · obtain ⟨winner, firstBest, found'⟩ := extends'.exists_winner_of_lt overtaken
    rw [found'] at sameName
    cases found : (Scoreboard.tally registry text).leader? with
    | none =>
        rw [found] at sameName
        contradiction
    | some leader =>
        obtain ⟨-, winnerBefore, firstBestBefore, rfl⟩ := Scoreboard.leader?_tally_eq_some found
        rw [found] at sameName
        have sameId : winner.id = winnerBefore.id := Option.some.inj sameName
        have known : winner.id ∈ registry.ids := by
          rw [sameId]
          exact List.mem_map_of_mem firstBestBefore.mem
        exact absurd known (extends'.isNew winner firstBest.mem)
  · apply extends'.leader?_of_le
    intro language member
    exact UInt32.not_lt.mp fun higher => overtaken ⟨language, member, higher⟩

end Extends

/-- What languages that are declared later change: the scores of the others stay, the leader stays
unless one of the new languages scores higher, and with the leader the verdict stays. -/
theorem detect_of_growth {start : Start} {steps more : List Step}
    (built : (Draft.ofSteps start steps).build = .ok registry)
    (built' : (Draft.ofSteps start (steps ++ more)).build = .ok registry')
    (adds : AddsLanguages registry.ids (more.flatMap Step.declarations)) (text : String) :
    let board := Scoreboard.tally registry text
    let board' := Scoreboard.tally registry' text
    ∃ added, registry'.languages = registry.languages ++ added ∧
      added.map (·.id) = declaredIds (more.flatMap Step.declarations) ∧
      let BestAddedLeads := ∃ winner,
        Registry.IsFirstBest { registry' with languages := added } text winner ∧
          board'.leader? = some (winner.entry text)
      (∀ id ∈ registry.ids, board'.scoreOf? id = board.scoreOf? id ∧
        board'.entries.find? (·.language == id) = board.entries.find? (·.language == id)) ∧
      (∀ leader, board.leader? = some leader →
        ((∀ language ∈ added, (language.entry text).score ≤ leader.score) →
          board'.leader? = some leader) ∧
        ((∃ language ∈ added, leader.score < (language.entry text).score) → BestAddedLeads)) ∧
      (board.leader? = none →
        ((∀ language ∈ added, ∀ rule ∈ language.rules, ¬ rule.isMatch text = true) →
          board'.leader? = none) ∧
        ((∃ language ∈ added, ∃ rule ∈ language.rules, rule.isMatch text = true) →
          BestAddedLeads)) ∧
      (board'.leader?.map (·.language) = board.leader?.map (·.language) →
        ∀ policy extensionHint filename,
          detect ⟨registry', policy, extensionHint⟩ text filename =
            detect ⟨registry, policy, extensionHint⟩ text filename) := by
  intro board board'
  have wellFormed : registry.WellFormed :=
    (Draft.builds_of_build_eq_ok built).wellFormed (Draft.describes_ofSteps start steps)
  have wellFormed' : registry'.WellFormed :=
    (Draft.builds_of_build_eq_ok built').wellFormed (Draft.describes_ofSteps start (steps ++ more))
  obtain ⟨added, extends', ids, -⟩ := Registry.exists_extends_ofSteps built built' adds
  have scores_iff : ∀ language ∈ added, 0 < (language.entry text).score ↔
      ∃ rule ∈ language.rules, rule.isMatch text = true := by
    intro language member
    have inRegistry' : language ∈ registry'.languages := by
      rw [extends'.languages]
      exact List.mem_append_right _ member
    exact Language.score_entry_pos_iff (weight_ne_zero wellFormed' inRegistry')
  refine ⟨added, extends'.languages, ids, ?_, ?_, ?_, ?_⟩
  · intro id known
    have found : board'.entries.find? (·.language == id) =
        board.entries.find? (·.language == id) := extends'.find?_entries known
    exact ⟨congrArg (Option.map Score.score) found, found⟩
  · intro leader found
    constructor
    · intro le
      rw [← found]
      apply extends'.leader?_of_le
      rwa [found]
    · intro lt
      apply extends'.exists_winner_of_lt
      rwa [found]
  · intro none
    constructor
    · intro noMatch
      rw [← none]
      apply extends'.leader?_of_le
      intro language member
      rw [none]
      refine UInt32.not_lt.mp fun positive => ?_
      obtain ⟨rule, inRules, isMatch⟩ := (scores_iff language member).mp positive
      exact noMatch language member rule inRules isMatch
    · rintro ⟨language, member, isMatch⟩
      apply extends'.exists_winner_of_lt
      rw [none]
      exact ⟨language, member, (scores_iff language member).mpr isMatch⟩
  · intro sameName policy extensionHint filename
    exact detect_of_extends extends' wellFormed wellFormed'
      (leader?_eq_of_language_eq extends' sameName) policy extensionHint filename

def systemLanguages : List Step :=
  [.rule "c" ";" 2, .extension "H" "c"]

def laterLanguages : List Step :=
  [.settings { languages := [⟨" zig ", [⟨"@", 3⟩], []⟩] }]

/-- A new language takes over a text where its rule weighs more, and no other text. -/
theorem detect_of_growth_laterLanguages :
    ∃ registry registry', (Draft.ofSteps .empty systemLanguages).build = .ok registry ∧
      (Draft.ofSteps .empty (systemLanguages ++ laterLanguages)).build = .ok registry' ∧
      AddsLanguages registry.ids (laterLanguages.flatMap Step.declarations) ∧
      (∀ policy filename, detect ⟨registry', policy, true⟩ ";" filename =
        detect ⟨registry, policy, true⟩ ";" filename) ∧
      ∃ added winner, registry'.languages = registry.languages ++ added ∧
        Registry.IsFirstBest { registry' with languages := added } ";@" winner ∧
        (Scoreboard.tally registry' ";@").leader? =
          some (winner.entry ";@") := by
  obtain ⟨registry', built', tie, ahead⟩ :
      ∃ registry', (Draft.ofSteps .empty (systemLanguages ++ laterLanguages)).build =
          .ok registry' ∧
        (Scoreboard.tally registry' ";").leader?.map (·.language) = some "c" ∧
        ∃ language ∈ registry'.languages, language.id ∉ ["c"] ∧
          2 < (language.entry ";@").score := by
    apply exists_of_check
    decide +kernel
  obtain ⟨registry, built, ids, leads, behind⟩ :
      ∃ registry, (Draft.ofSteps .empty systemLanguages).build = .ok registry ∧
        registry.ids = ["c"] ∧
        (Scoreboard.tally registry ";").leader?.map (·.language) = some "c" ∧
        (Scoreboard.tally registry ";@").leader?.map (·.score) = some 2 := by
    apply exists_of_check
    decide +kernel
  have adds : AddsLanguages registry.ids (laterLanguages.flatMap Step.declarations) := by
    rw [ids]
    exact ⟨by decide +kernel, by decide +kernel⟩
  obtain ⟨-, -, -, -, -, -, unchanged⟩ := detect_of_growth built built' adds ";"
  obtain ⟨added, split, -, -, overtaken, -, -⟩ :=
    detect_of_growth built built' adds ";@"
  obtain ⟨leader, found, score⟩ := Option.map_eq_some_iff.mp behind
  obtain ⟨language, member, isNew, higher⟩ := ahead
  have inAdded : language ∈ added := by
    rw [split] at member
    refine (List.mem_append.mp member).resolve_left fun known => ?_
    rw [← ids] at isNew
    exact isNew (List.mem_map_of_mem known)
  obtain ⟨winner, firstBest, winnerLeads⟩ :=
    (overtaken leader found).2 ⟨language, inAdded, by rwa [score]⟩
  exact ⟨registry, registry', built, built', adds,
    fun policy filename => unchanged (by rw [tie, leads]) policy true filename,
    added, winner, split, firstBest, winnerLeads⟩

end Detector

end LanguageDetection
