import LanguageDetection.Proofs.Command.Reporting
import LanguageDetection.Proofs.Detection.Tally

/-!
Explanations: the scores given beside a verdict are those of the languages with a matching rule. The
first of the highest belongs to the language of the verdict, unless a filename decides.
-/

namespace LanguageDetection

open LanguageDetection.Text

namespace Scoreboard

theorem better_of_not_scoring {entry : Score} (idle : ¬ 0 < entry.score) (best : Option Score) :
    better best entry = best := by
  have zero : entry.score = 0 := UInt32.le_zero_iff.mp (UInt32.not_lt.mp idle)
  rw [better, zero, if_neg UInt32.not_lt_zero]

/-- The leader is among the entries that score. -/
theorem leader?_scoring (board : Scoreboard) : leader? ⟨board.scoring⟩ = board.leader? := by
  rw [leader?, leader?, scoring, List.foldl_filter]
  congr 1
  funext best entry
  by_cases scores : 0 < entry.score
  · rw [if_pos (decide_eq_true scores)]
  · rw [if_neg (by simpa using scores), better_of_not_scoring scores]

end Scoreboard

def Registry.matching (registry : Registry) (text : String) : List Language :=
  registry.languages.filter fun language => language.rules.any (·.isMatch text)

/-- An entry of the board for each language with a matching rule, in their order. -/
structure Detector.Explains (detector : Detector) (text : String) (scores : List Score) :
    Prop where
  entries : List.Forall₂ (fun language entry => entry.Counts language text)
    (detector.registry.matching text) scores
  onBoard : scores.Sublist (detector.score text).entries

/-- A verdict for the first language with the highest of some scores, if there are any. -/
structure Verdict.FollowsFrom (verdict : Verdict) (scores : List Score) : Prop where
  nothing : scores = [] → verdict = ⟨"unknown", 0.3⟩
  leading : scores ≠ [] → ∃ before best after, scores = before ++ best :: after ∧
    (∀ entry ∈ before, entry.score < best.score) ∧ (∀ entry ∈ after, entry.score ≤ best.score) ∧
    verdict.language = best.language

namespace Detector

variable {detector : Detector} {text : String} {filename : Option String}

theorem scoring_score (wellFormed : detector.registry.WellFormed) (text : String) :
    (detector.score text).scoring = (detector.registry.matching text).map (·.entry text) := by
  rw [Scoreboard.scoring, score, Scoreboard.tally, List.filter_map, Registry.matching]
  congr 1
  apply List.filter_congr
  intro language member
  have weighted := weight_ne_zero wellFormed member
  rw [Bool.eq_iff_iff, List.any_eq_true, ← Language.score_entry_pos_iff weighted]
  exact decide_eq_true_iff

theorem explains_scoring (wellFormed : detector.registry.WellFormed) (text : String) :
    detector.Explains text (detector.score text).scoring where
  entries := by
    rw [scoring_score wellFormed, List.forall₂_map_right_iff, List.forall₂_same]
    intro language member
    have declared := (List.mem_filter.mp member).1
    exact Language.counts_entry (weight_ne_zero wellFormed declared) text
  onBoard := List.filter_sublist

theorem language_detect_of_leader? (unresolved : ∀ language, ¬ detector.Resolves filename language)
    {leader : Score} (found : (detector.score text).leader? = some leader) :
    (detector.detect text filename).language = leader.language := by
  rw [detect, ground, languageOfFilename?_eq_none unresolved]
  simp only [groundOfText, found]
  rfl

theorem followsFrom_scoring (wellFormed : detector.registry.WellFormed)
    (unresolved : ∀ language, ¬ detector.Resolves filename language) :
    (detector.detect text filename).FollowsFrom (detector.score text).scoring := by
  have leads := Scoreboard.leads_leader? ⟨(detector.score text).scoring⟩
  rw [Scoreboard.leader?_scoring] at leads
  constructor
  case nothing =>
    intro empty
    have noLeader : (detector.score text).leader? = none := by
      rw [← Scoreboard.leader?_scoring, empty]
      rfl
    exact detect_of_not_hasMatch wellFormed unresolved
      ((leader?_eq_none_iff wellFormed).mp noLeader)
  case leading =>
    intro nonempty
    cases found : (detector.score text).leader? with
    | none =>
        -- All that is left scores, so one of them would lead.
        rw [found] at leads
        obtain ⟨entry, member⟩ := List.exists_mem_of_ne_nil _ nonempty
        have positive : 0 < entry.score := of_decide_eq_true (List.mem_filter.mp member).2
        exact absurd (leads entry member) (UInt32.pos_iff_ne_zero.mp positive)
    | some leader =>
        rw [found] at leads
        obtain ⟨-, before, after, split, below, notAbove⟩ := leads
        exact ⟨before, leader, after, split, below, notAbove,
          language_detect_of_leader? unresolved found⟩

end Detector

namespace Command

open LanguageDetection.Files

/-- What a run with explanations says of some bytes, whichever detector it has and wherever it has
the bytes from. -/
theorem explain_followsFrom {start : Start} {steps : List Step} {registry : Registry}
    (built : (Draft.ofSteps start steps).build = .ok registry) (policy : Policy)
    (extensionHint : Bool) (bytes : List UInt8) :
    let detector : Detector := { registry, policy, extensionHint }
    ∃ scores, detector.Explains (decodeText bytes) scores ∧
      (∀ filename, (∀ language, ¬ detector.Resolves filename language) →
        (detector.detectBytes bytes filename).FollowsFrom scores) ∧
      (∀ (host : Host Id) (request : DetectRequest), host.input.run = .ok bytes →
        request.explain = true → (detectInput host detector request).Prints
          (writtenText request.format
            ⟨detector.detectBytes bytes request.filename, some scores⟩)) ∧
      (∀ path, (detectBytes detector true path bytes).1 = .detected
        ⟨path, detector.detectBytes bytes (Path.fileName? path), (decodeText bytes).utf8ByteSize,
          some scores⟩) ∧
      ∀ (host : Host Id) (arguments : List String) (request : DetectRequest) (directory : Path)
          (settings : Settings),
        Detects host arguments request directory settings detector → request.explain = true →
        (request.readsInput = true → host.input.run = .ok bytes →
          (run host arguments).run.exitCode = 0 ∧
            TextReport.IsOutput ⟨detector.detectBytes bytes request.filename, some scores⟩
              request.format (run host arguments).run.output) ∧
        (request.readsInput = false → (run host arguments).run.exitCode = 0 →
          ∃ account : Account host.files
              (walkerOf host.files ⟨directory, host.environment⟩ settings) detector settings request,
            account.IsOutput request.format (run host arguments).run.output ∧
            ∀ report ∈ account.reports,
              Reads host.files settings.maxFileBytes report.path bytes →
              report.verdict = detector.detectBytes bytes (Path.fileName? report.path) ∧
                report.scores = some scores) := by
  intro detector
  have wellFormed : registry.WellFormed :=
    (Draft.builds_of_build_eq_ok built).wellFormed (Draft.describes_ofSteps start steps)
  have explained {request : DetectRequest} (asked : request.explain = true) :
      textReport detector request.explain bytes request.filename =
        ⟨detector.detectBytes bytes request.filename,
          some (detector.score (decodeText bytes)).scoring⟩ := by
    rw [textReport, asked]
    rfl
  refine ⟨(detector.score (decodeText bytes)).scoring,
    Detector.explains_scoring wellFormed _, ?_, ?_, ?_, ?_⟩
  · intro filename unresolved
    exact Detector.followsFrom_scoring wellFormed unresolved
  · intro host request given asked
    rw [← explained asked]
    exact prints_detectInput detector request given
  · intro path
    rfl
  · intro host arguments request directory settings detects asked
    constructor
    · intro readsInput given
      rw [← explained asked]
      exact detects.run_on_input readsInput given
    · intro onPaths succeeds
      obtain ⟨account, shown⟩ := detects.exists_account onPaths succeeds
      refine ⟨account, shown, ?_⟩
      intro report listed reads
      obtain ⟨content, reads', equal⟩ := account.ofContent report listed
      obtain rfl : content = bytes := Except.ok.inj (reads'.content.symm.trans reads.content)
      rw [equal, asked]
      exact ⟨rfl, rfl⟩

/-- Two languages whose rules both match, in sixteen-bit units after a mark. -/
def markedUnits : List UInt8 :=
  0xFF :: 0xFE :: "std::goto".toUTF8.data.toList.flatMap fun byte => [byte, 0]

theorem explain_followsFrom_markedUnits :
    ∃ registry scores, (Draft.ofSteps .empty Detector.equalRules).build = .ok registry ∧
      Detector.Explains ⟨registry, .ruleCoverage 0.8, true⟩ "std::goto" scores ∧
      Verdict.FollowsFrom
        (Detector.detectBytes ⟨registry, .ruleCoverage 0.8, true⟩ markedUnits none) scores ∧
      scores.map (·.language) = ["c", "cpp"] := by
  obtain ⟨registry, built, scoring⟩ :
      ∃ registry, (Draft.ofSteps .empty Detector.equalRules).build = .ok registry ∧
        (registry.matching "std::goto").map (·.id) = ["c", "cpp"] := by
    apply exists_of_check
    decide +kernel
  have decoded : decodeText markedUnits = "std::goto" := by decide +kernel
  obtain ⟨scores, explains, follows, -⟩ :=
    explain_followsFrom built (.ruleCoverage 0.8) true markedUnits
  rw [decoded] at explains
  refine ⟨registry, scores, built, explains, follows none Detector.not_resolves_none, ?_⟩
  rw [← scoring, Score.map_language_eq explains.entries]

end Command

end LanguageDetection
