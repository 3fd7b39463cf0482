import LanguageDetection.Proofs.Detection.Confidence
import LanguageDetection.Proofs.Detection.Tally
import LanguageDetection.Proofs.Signature.Rejection

/-!
Registries with the same languages and rules in another order. Weights add up the same in any order,
so every score is the same, and the order decides no more than which of the languages with the
highest score is the first of them.
-/

namespace LanguageDetection

open LanguageDetection.Pattern

theorem weightOf_perm {rules rules' : List Rule} (perm : rules.Perm rules') :
    weightOf rules = weightOf rules' := by
  apply UInt32.toNat_inj.mp
  rw [toNat_weightOf_eq_min, toNat_weightOf_eq_min, (perm.map _).sum_eq]

def Rule.declared (rule : Rule) : String × UInt32 :=
  (rule.pattern, rule.weight)

theorem filterMap_ofPattern_declared {rules : List Rule}
    (compiled : ∀ rule ∈ rules, Searcher.ofPattern rule.pattern = .ok rule.searcher) :
    (rules.map Rule.declared).filterMap
      (fun declared => (Rule.ofPattern declared.1 declared.2).toOption) = rules := by
  induction rules with
  | nil => rfl
  | cons rule rest ih =>
      obtain ⟨first, compiled⟩ := List.forall_mem_cons.mp compiled
      have made : Rule.ofPattern rule.pattern rule.weight = .ok rule :=
        Draft.ofPattern_eq_ok_iff.mpr ⟨rfl, rfl, first⟩
      rw [List.map_cons, Rule.declared, List.filterMap_cons, ih compiled, made]
      rfl

theorem perm_of_perm_declared {rules rules' : List Rule}
    (compiled : ∀ rule ∈ rules, Searcher.ofPattern rule.pattern = .ok rule.searcher)
    (compiled' : ∀ rule ∈ rules', Searcher.ofPattern rule.pattern = .ok rule.searcher)
    (perm : (rules.map Rule.declared).Perm (rules'.map Rule.declared)) : rules.Perm rules' := by
  rw [← filterMap_ofPattern_declared compiled, ← filterMap_ofPattern_declared compiled']
  exact perm.filterMap _

namespace Language

variable {language language' : Language} (perm : language.rules.Perm language'.rules)

include perm

theorem totalWeight_eq_of_perm : language.totalWeight = language'.totalWeight :=
  weightOf_perm perm

theorem score_entry_eq_of_perm (text : String) :
    (language.entry text).score = (language'.entry text).score :=
  weightOf_perm (perm.filter _)

end Language

namespace Registry

/-- The same languages in any order, each with the same rules in any order. -/
structure Reorders (registry registry' : Registry) : Prop where
  mem_ids_iff : ∀ id, id ∈ registry.ids ↔ id ∈ registry'.ids
  rules : ∀ language ∈ registry.languages, ∀ language' ∈ registry'.languages,
    language.id = language'.id →
    (language.rules.map Rule.declared).Perm (language'.rules.map Rule.declared)

/-- What is needed of a registry so that its rules are told by what was declared. -/
structure IsAccepted (registry : Registry) : Prop where
  wellFormed : registry.WellFormed
  compiled : ∀ language ∈ registry.languages, ∀ rule ∈ language.rules,
    Searcher.ofPattern rule.pattern = .ok rule.searcher

theorem isAccepted_of_build {start : Start} {steps : List Step} {registry : Registry}
    (built : (Draft.ofSteps start steps).build = .ok registry) : registry.IsAccepted := by
  have builds := Draft.builds_of_build_eq_ok built
  have describes := Draft.describes_ofSteps start steps
  exact ⟨builds.wellFormed describes, (builds.reflects describes).compiled⟩

theorem language?_eq_find? {registry : Registry} (wellFormed : registry.WellFormed) (id : String) :
    registry.language? id = registry.languages.find? (·.id == id) := by
  cases found : registry.languages.find? (·.id == id) with
  | none =>
      apply (wellFormed.language?_none id).mpr
      intro member
      obtain ⟨language, declared, named⟩ := List.mem_map.mp member
      exact List.find?_eq_none.mp found language declared (beq_iff_eq.mpr named)
  | some language =>
      have named : language.id = id := beq_iff_eq.mp (List.find?_some found :)
      rw [← named]
      exact Detector.language?_of_mem wellFormed (List.mem_of_find?_eq_some found)

namespace Reorders

variable {registry registry' : Registry} (reorders : registry.Reorders registry')
  (accepted : registry.IsAccepted) (accepted' : registry'.IsAccepted)

include reorders accepted accepted'

theorem map_language? {α : Type} {f : Language → α}
    (f_eq : ∀ {language language' : Language}, language.rules.Perm language'.rules →
      f language = f language') (id : String) :
    (registry.language? id).map f = (registry'.language? id).map f := by
  by_cases member : id ∈ registry.ids
  · obtain ⟨language, declared, named⟩ := List.mem_map.mp member
    obtain ⟨language', declared', named'⟩ := List.mem_map.mp ((reorders.mem_ids_iff id).mp member)
    have perm : language.rules.Perm language'.rules :=
      perm_of_perm_declared (accepted.compiled language declared)
        (accepted'.compiled language' declared')
        (reorders.rules language declared language' declared' (named.trans named'.symm))
    have there := Detector.language?_of_mem accepted.wellFormed declared
    have there' := Detector.language?_of_mem accepted'.wellFormed declared'
    rw [named] at there
    rw [named'] at there'
    rw [there, there', Option.map_some, Option.map_some, f_eq perm]
  · have absent := mt (reorders.mem_ids_iff id).mpr member
    rw [(accepted.wellFormed.language?_none id).mpr member,
      (accepted'.wellFormed.language?_none id).mpr absent]

theorem totalWeight_eq (id : String) :
    (registry.language? id).map (·.totalWeight) = (registry'.language? id).map (·.totalWeight) :=
  reorders.map_language? accepted accepted' Language.totalWeight_eq_of_perm id

theorem scoreOf?_eq (text id : String) :
    (Scoreboard.tally registry text).scoreOf? id =
      (Scoreboard.tally registry' text).scoreOf? id := by
  rw [Scoreboard.scoreOf?_tally, Scoreboard.scoreOf?_tally,
    ← language?_eq_find? accepted.wellFormed, ← language?_eq_find? accepted'.wellFormed]
  exact reorders.map_language? accepted accepted' (Language.score_entry_eq_of_perm · text) id

end Reorders

end Registry

namespace Scoreboard

theorem le_maxScore_of_scoreOf? {board : Scoreboard} {id : String} {score : UInt32}
    (found : board.scoreOf? id = some score) : score ≤ board.maxScore := by
  obtain ⟨entry, isEntry, rfl⟩ := Option.map_eq_some_iff.mp found
  exact le_maxScore (List.mem_of_find?_eq_some isEntry)

theorem maxScore_le_of_scoreOf?_eq {board board' : Scoreboard} {registry : Registry} {text : String}
    (tallies : board.Tallies registry text)
    (same : ∀ id, board.scoreOf? id = board'.scoreOf? id) : board.maxScore ≤ board'.maxScore := by
  apply maxScore_le_of_forall_le
  intro entry member
  apply le_maxScore_of_scoreOf?
  rw [← same]
  exact tallies.scoreOf?_of_mem entry member

end Scoreboard

namespace Detector

/-- The language that a text is taken for by its scores, and how sure that is. -/
structure Wins (registry : Registry) (text id : String) : Prop where
  isMax : (Scoreboard.tally registry text).scoreOf? id =
    some (Scoreboard.tally registry text).maxScore
  detect_eq : ∀ policy extensionHint,
    let detector : Detector := ⟨registry, policy, extensionHint⟩
    let highest := (Scoreboard.tally registry text).maxScore
    detector.detect text none =
      .new id (policy.confidence highest highest (detector.totalWeight id))

theorem exists_wins {registry : Registry} {text : String}
    (tallies : (Scoreboard.tally registry text).Tallies registry text)
    (positive : (Scoreboard.tally registry text).maxScore ≠ 0) :
    ∃ id, Wins registry text id := by
  cases found : (Scoreboard.tally registry text).leader? with
  | none => exact absurd (tallies.leader?_eq_none_iff.mp found) positive
  | some leader =>
      obtain ⟨-, isMax, before, after, split, -⟩ := (tallies.leader?_eq_some_iff leader).mp found
      have member : leader ∈ (Scoreboard.tally registry text).entries := by
        rw [split]
        exact List.mem_append_right _ List.mem_cons_self
      refine ⟨leader.language, ?_, ?_⟩
      · rw [tallies.scoreOf?_of_mem leader member, isMax]
      · intro policy extensionHint detector highest
        rw [detect, ground, languageOfFilename?_eq_none not_resolves_none]
        simp only [groundOfText, score, detector, found, isMax]
        rfl

section

variable {registry registry' : Registry} (reorders : registry.Reorders registry')
  (accepted : registry.IsAccepted) (accepted' : registry'.IsAccepted) (text : String)

include reorders accepted accepted'

theorem maxScore_eq_of_reorders :
    (Scoreboard.tally registry text).maxScore = (Scoreboard.tally registry' text).maxScore := by
  have scores := reorders.scoreOf?_eq accepted accepted' text
  apply UInt32.le_antisymm
  · exact Scoreboard.maxScore_le_of_scoreOf?_eq
      (Scoreboard.tallies_tally accepted.wellFormed text) scores
  · exact Scoreboard.maxScore_le_of_scoreOf?_eq
      (Scoreboard.tallies_tally accepted'.wellFormed text) fun id => (scores id).symm

theorem exists_wins_of_reorders (positive : (Scoreboard.tally registry text).maxScore ≠ 0) :
    ∃ id id', Wins registry text id ∧ Wins registry' text id' ∧
      (Scoreboard.tally registry text).scoreOf? id' =
        some (Scoreboard.tally registry text).maxScore := by
  have sameMax := maxScore_eq_of_reorders reorders accepted accepted' text
  obtain ⟨id, wins⟩ := exists_wins (Scoreboard.tallies_tally accepted.wellFormed text) positive
  obtain ⟨id', wins'⟩ :=
    exists_wins (Scoreboard.tallies_tally accepted'.wellFormed text) (sameMax ▸ positive)
  refine ⟨id, id', wins, wins', ?_⟩
  rw [reorders.scoreOf?_eq accepted accepted', sameMax]
  exact wins'.isMax

/-- The same winner is as sure of either registry. -/
theorem detect_eq_of_wins {id : String} (wins : Wins registry text id)
    (wins' : Wins registry' text id) (policy : Policy) (extensionHint extensionHint' : Bool) :
    detect ⟨registry, policy, extensionHint⟩ text none =
      detect ⟨registry', policy, extensionHint'⟩ text none := by
  rw [wins.detect_eq, wins'.detect_eq, totalWeight, totalWeight,
    reorders.totalWeight_eq accepted accepted',
    maxScore_eq_of_reorders reorders accepted accepted' text]

end

/-- The order in which languages and their rules are declared breaks ties, and makes no difference
otherwise. -/
theorem detect_reorders {start start' : Start} {steps steps' : List Step}
    {registry registry' : Registry} (built : (Draft.ofSteps start steps).build = .ok registry)
    (built' : (Draft.ofSteps start' steps').build = .ok registry')
    (reorders : registry.Reorders registry') (text : String) :
    let board := Scoreboard.tally registry text
    let board' := Scoreboard.tally registry' text
    (∀ id, board.scoreOf? id = board'.scoreOf? id) ∧
    (∀ id, (registry.language? id).map (·.totalWeight) =
      (registry'.language? id).map (·.totalWeight)) ∧
    board.maxScore = board'.maxScore ∧
    ∀ policy extensionHint extensionHint',
      let verdict := detect ⟨registry, policy, extensionHint⟩ text none
      let verdict' := detect ⟨registry', policy, extensionHint'⟩ text none
      (board.maxScore = 0 → verdict = ⟨"unknown", 0.3⟩ ∧ verdict' = ⟨"unknown", 0.3⟩) ∧
      (board.maxScore ≠ 0 →
        board.scoreOf? verdict.language = some board.maxScore ∧
        board.scoreOf? verdict'.language = some board.maxScore) ∧
      (board.maxScore ≠ 0 → (∃! id, board.scoreOf? id = some board.maxScore) →
        verdict = verdict') := by
  intro board board'
  have accepted := Registry.isAccepted_of_build built
  have accepted' := Registry.isAccepted_of_build built'
  have sameMax : board.maxScore = board'.maxScore :=
    maxScore_eq_of_reorders reorders accepted accepted' text
  refine ⟨reorders.scoreOf?_eq accepted accepted' text, reorders.totalWeight_eq accepted accepted',
    sameMax, ?_⟩
  intro policy extensionHint extensionHint' verdict verdict'
  refine ⟨?_, ?_, ?_⟩
  · intro nothing
    have noLeader : board.leader? = none := Scoreboard.leader?_eq_none_iff.mpr nothing
    have noLeader' : board'.leader? = none :=
      Scoreboard.leader?_eq_none_iff.mpr (sameMax ▸ nothing)
    exact ⟨detect_of_leader?_eq_none not_resolves_none noLeader,
      detect_of_leader?_eq_none not_resolves_none noLeader'⟩
  · intro positive
    obtain ⟨id, id', wins, wins', isMax'⟩ :=
      exists_wins_of_reorders reorders accepted accepted' text positive
    rw [show verdict = _ from wins.detect_eq policy extensionHint,
      show verdict' = _ from wins'.detect_eq policy extensionHint']
    exact ⟨wins.isMax, isMax'⟩
  · intro positive unique
    obtain ⟨id, id', wins, wins', isMax'⟩ :=
      exists_wins_of_reorders reorders accepted accepted' text positive
    obtain rfl := unique.unique wins.isMax isMax'
    exact detect_eq_of_wins reorders accepted accepted' text wins wins' policy _ _

def someOrder : List Step :=
  [.language "ml" ["let", "rec"], .rule "scheme" "let" 1]

def otherOrder : List Step :=
  [.rule "scheme" "let" 1, .language "ml" ["rec", "let"]]

/-- One text in which a language leads, and one in which both weigh the same. -/
theorem detect_reorders_otherOrder :
    ∃ registry registry', (Draft.ofSteps .empty someOrder).build = .ok registry ∧
      (Draft.ofSteps .empty otherOrder).build = .ok registry' ∧ registry.Reorders registry' ∧
      (let detector : Detector := ⟨registry, .ofProfile .compact, true⟩
        let detector' : Detector := ⟨registry', .ofProfile .compact, true⟩
        detector.detect "let rec" none = detector'.detect "let rec" none ∧
        detector.detect "" none = ⟨"unknown", 0.3⟩ ∧ detector'.detect "" none = ⟨"unknown", 0.3⟩ ∧
        (detector.detect "let" none).language = "ml" ∧
        (detector'.detect "let" none).language = "scheme" ∧
        (detector.score "let").scoreOf? "scheme" = some (detector.score "let").maxScore) := by
  obtain ⟨registry, built, checked⟩ :
      ∃ registry, (Draft.ofSteps .empty someOrder).build = .ok registry ∧
        (((Draft.ofSteps .empty otherOrder).build).toOption.any fun registry' => decide (
          registry.ids = ["ml", "scheme"] ∧ registry'.ids = ["scheme", "ml"] ∧
          (∀ language ∈ registry.languages, ∀ language' ∈ registry'.languages,
            language.id = language'.id →
            (language.rules.map Rule.declared).Perm (language'.rules.map Rule.declared)) ∧
          (Scoreboard.tally registry "let rec").entries =
            [⟨"ml", 2, ["let", "rec"]⟩, ⟨"scheme", 1, ["let"]⟩] ∧
          (Scoreboard.tally registry "").maxScore = 0 ∧
          (detect ⟨registry, .ofProfile .compact, true⟩ "let" none).language = "ml" ∧
          (detect ⟨registry', .ofProfile .compact, true⟩ "let" none).language = "scheme" ∧
          (Scoreboard.tally registry "let").maxScore ≠ 0)) = true := by
    apply exists_of_check
    decide +kernel
  obtain ⟨registry', built', ids, ids', rules, board, nothing, ml, scheme, tied⟩ :=
    exists_of_check checked
  have reorders : registry.Reorders registry' := by
    refine ⟨?_, rules⟩
    intro id
    rw [ids, ids']
    simp [or_comm]
  refine ⟨registry, registry', built, built', reorders, ?_, ?_, ?_, ml, scheme, ?_⟩
  · obtain ⟨-, -, -, verdicts⟩ := detect_reorders built built' reorders "let rec"
    have isMax : (Scoreboard.tally registry "let rec").maxScore = 2 := by
      rw [Scoreboard.maxScore, board]
      rfl
    apply (verdicts (.ofProfile .compact) true true).2.2
    · rw [isMax]
      decide
    · refine ⟨"ml", ?_, ?_⟩
      · simp only [isMax, Scoreboard.scoreOf?, board]
        rfl
      · intro id
        simp only [isMax, Scoreboard.scoreOf?, board, List.find?_cons, List.find?_nil]
        intro found
        split at found
        · rename_i same
          exact (beq_iff_eq.mp same).symm
        · split at found
          · exact absurd found (by decide)
          · exact absurd found (by decide)
  · exact ((detect_reorders built built' reorders "").2.2.2 _ true true).1 nothing |>.1
  · exact ((detect_reorders built built' reorders "").2.2.2 _ true true).1 nothing |>.2
  · obtain ⟨-, -, -, verdicts⟩ := detect_reorders built built' reorders "let"
    have isMax := ((verdicts (.ofProfile .compact) true true).2.1 tied).2
    rwa [scheme] at isMax

end Detector

end LanguageDetection
