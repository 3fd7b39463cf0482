import LanguageDetection.Proofs.Detection.Ascii
import LanguageDetection.Proofs.Detection.Tally
import LanguageDetection.Proofs.Detection.Unknown

/-!
Texts that gain lines: the built-in tables find in a text whatever they find in the lines before or
after a line break, so scores only grow.
-/

namespace LanguageDetection

open LanguageDetection.Pattern
open LanguageDetection.Text

theorem right_le_max (a b : UInt32) : b ≤ max a b := by
  change b ≤ if a ≤ b then b else a
  split
  · exact UInt32.le_refl b
  · rename_i above
    exact UInt32.le_of_lt (UInt32.not_le.mp above)

theorem max_le_of_le_of_le {a b bound : UInt32} (left : a ≤ bound) (right : b ≤ bound) :
    max a b ≤ bound := by
  change (if a ≤ b then b else a) ≤ bound
  split
  · exact right
  · exact left

/-- Whether the rules that match one text all match another. -/
def Registry.KeepsMatches (registry : Registry) (s t : String) : Prop :=
  ∀ language ∈ registry.languages, ∀ rule ∈ language.rules,
    rule.isMatch s = true → rule.isMatch t = true

namespace Registry.KeepsMatches

variable {registry : Registry} {s t : String} (keeps : registry.KeepsMatches s t)

include keeps

theorem score_entry_le {language : Language} (declared : language ∈ registry.languages) :
    (language.entry s).score ≤ (language.entry t).score := by
  rw [Language.score_entry, Language.score_entry]
  apply weightOf_le_of_sublist
  have both : language.matchingRules s = (language.matchingRules t).filter (·.isMatch s) := by
    rw [Language.matchingRules, Language.matchingRules, List.filter_filter]
    refine List.filter_congr fun rule isRule => ?_
    cases isMatch : rule.isMatch s with
    | false => rfl
    | true => rw [keeps language declared rule isRule isMatch, Bool.and_true]
  exact both ▸ List.filter_sublist

theorem exists_scoreOf?_le {id : String} (declared : id ∈ registry.ids) :
    ∃ score score', (Scoreboard.tally registry s).scoreOf? id = some score ∧
      (Scoreboard.tally registry t).scoreOf? id = some score' ∧ score ≤ score' := by
  obtain ⟨other, isOther, rfl⟩ := List.mem_map.mp declared
  have there : (registry.languages.find? (·.id == other.id)).isSome = true :=
    List.find?_isSome.mpr ⟨other, isOther, beq_self_eq_true _⟩
  obtain ⟨language, found⟩ := Option.isSome_iff_exists.mp there
  rw [Scoreboard.scoreOf?_tally, Scoreboard.scoreOf?_tally, found]
  exact ⟨_, _, rfl, rfl, keeps.score_entry_le (List.mem_of_find?_eq_some found)⟩

theorem maxScore_le :
    (Scoreboard.tally registry s).maxScore ≤ (Scoreboard.tally registry t).maxScore := by
  apply Scoreboard.maxScore_le_of_forall_le
  intro entry member
  obtain ⟨language, declared, rfl⟩ := List.mem_map.mp member
  have inOther : language.entry t ∈ (Scoreboard.tally registry t).entries :=
    List.mem_map_of_mem declared
  exact UInt32.le_trans (keeps.score_entry_le declared) (Scoreboard.le_maxScore inOther)

end Registry.KeepsMatches

theorem Text.Utf8.encode_lines (a b : String) :
    encode (a ++ "\n" ++ b) = encode a ++ 0x0A :: encode b := by
  rw [encode_eq, String.toList_append, String.toList_append, encodeChars_append,
    encodeChars_append, encode_eq, encode_eq, List.append_assoc]
  rfl

theorem Pattern.Searcher.search_encode_lines {r : Regex} (confined : r.isConfined = true)
    {a b : String} (found : (ofRegex r).search (Utf8.encode a) = true ∨
      (ofRegex r).search (Utf8.encode b) = true) :
    (ofRegex r).search (Utf8.encode (a ++ "\n" ++ b)) = true := by
  obtain ⟨proper, ascii, -⟩ := Regex.isConfined_iff.mp confined
  have notWord : isWordByte 0x0A = false := rfl
  rw [Utf8.encode_lines]
  simp only [search_iff proper] at found ⊢
  cases found with
  | inl inFirst => exact Regex.occursIn_append_cons_of_left ascii notWord inFirst
  | inr inSecond => exact Regex.occursIn_append_cons_of_right ascii notWord inSecond

namespace Registry

variable {profile : Profile} {registry : Registry}

theorem isMatch_lines_of_builtIn (built : builtIn profile = .ok registry) {language : Language}
    (declared : language ∈ registry.languages) {rule : Rule} (isRule : rule ∈ language.rules)
    {a b : String} (found : rule.isMatch a = true ∨ rule.isMatch b = true) :
    rule.isMatch (a ++ "\n" ++ b) = true := by
  obtain ⟨r, confined, searches⟩ :=
    exists_regex_of_builtIn built declared isRule (BuiltIn.passes_isConfined profile)
  simp only [Rule.isMatch, Rule.matchesBytes, searches] at found ⊢
  exact Searcher.search_encode_lines confined found

theorem wellFormed_of_builtIn (built : builtIn profile = .ok registry) : registry.WellFormed := by
  rw [← BuiltIn.build_draft] at built
  exact (Draft.builds_of_build_eq_ok built).wellFormed (BuiltIn.describes_draft _)

theorem unknown_not_mem_of_builtIn (built : builtIn profile = .ok registry) :
    "unknown" ∉ registry.ids := by
  rw [(reflects_of_builtIn built).ids, BuiltIn.declaredIds_declarations]
  cases profile <;> decide

end Registry

theorem Detector.isUnknown_detect_none_iff {detector : Detector}
    (wellFormed : detector.registry.WellFormed) (unreserved : "unknown" ∉ detector.registry.ids)
    (text : String) :
    (detector.detect text none).isUnknown = true ↔ ¬ detector.HasMatch text := by
  have undecided : ¬ detector.Decides text none "unknown" := fun decides =>
    unreserved (mem_ids_of_decides wellFormed decides)
  rw [isUnknown_detect_iff wellFormed, or_iff_left undecided]
  exact and_iff_right not_resolves_none

theorem Detector.isUnknown_detect_eq_false_of_scoreOf? {detector : Detector}
    (wellFormed : detector.registry.WellFormed) (unreserved : "unknown" ∉ detector.registry.ids)
    {text id : String} {score : UInt32}
    (found : (Scoreboard.tally detector.registry text).scoreOf? id = some score)
    (positive : 0 < score) : (detector.detect text none).isUnknown = false := by
  rw [Scoreboard.scoreOf?_tally, Option.map_eq_some_iff] at found
  obtain ⟨language, isFound, rfl⟩ := found
  have declared := List.mem_of_find?_eq_some isFound
  rw [Language.score_entry_pos_iff (weight_ne_zero wellFormed declared)] at positive
  rw [Bool.eq_false_iff, Ne, detector.isUnknown_detect_none_iff wellFormed unreserved, not_not]
  exact ⟨language, declared, positive⟩

theorem Registry.KeepsMatches.isUnknown_detect_eq_false {detector : Detector} {s t : String}
    (keeps : detector.registry.KeepsMatches s t) (wellFormed : detector.registry.WellFormed)
    (unreserved : "unknown" ∉ detector.registry.ids)
    (known : (detector.detect s none).isUnknown = false) :
    (detector.detect t none).isUnknown = false := by
  rw [Bool.eq_false_iff, Ne, detector.isUnknown_detect_none_iff wellFormed unreserved,
    not_not] at known ⊢
  obtain ⟨language, declared, rule, isRule, isMatch⟩ := known
  exact ⟨language, declared, rule, isRule, keeps language declared rule isRule isMatch⟩

namespace Registry

/-- Two texts with a line break between them are matched by every rule that matches one of them. So
no score is lower than on either, and a language is found if one is found in either. -/
theorem builtIn_growsByLines (profile : Profile) :
    ∃ registry, builtIn profile = .ok registry ∧ ∀ a b : String,
      let board := Scoreboard.tally registry
      let joined := a ++ "\n" ++ b
      (∀ language ∈ registry.languages, ∀ rule ∈ language.rules,
        rule.isMatch a = true ∨ rule.isMatch b = true → rule.isMatch joined = true) ∧
      (∀ id ∈ registry.ids, ∃ first second score,
        (board a).scoreOf? id = some first ∧ (board b).scoreOf? id = some second ∧
          (board joined).scoreOf? id = some score ∧ max first second ≤ score) ∧
      max (board a).maxScore (board b).maxScore ≤ (board joined).maxScore ∧
      ∀ detector : Detector, detector.registry = registry →
        ((detector.detect a none).isUnknown = false ∨
          (detector.detect b none).isUnknown = false) →
        (detector.detect joined none).isUnknown = false := by
  obtain ⟨registry, built⟩ := exists_builtIn profile
  refine ⟨registry, built, ?_⟩
  intro a b board joined
  have grows : ∀ language ∈ registry.languages, ∀ rule ∈ language.rules,
      rule.isMatch a = true ∨ rule.isMatch b = true → rule.isMatch joined = true :=
    fun language declared rule isRule => isMatch_lines_of_builtIn built declared isRule
  have keepsFirst : registry.KeepsMatches a joined :=
    fun language declared rule isRule isMatch => grows language declared rule isRule (.inl isMatch)
  have keepsSecond : registry.KeepsMatches b joined :=
    fun language declared rule isRule isMatch => grows language declared rule isRule (.inr isMatch)
  refine ⟨grows, ?_, ?_, ?_⟩
  · intro id declared
    obtain ⟨first, score, inFirst, inJoined, firstLe⟩ := keepsFirst.exists_scoreOf?_le declared
    obtain ⟨second, score', inSecond, inJoined', secondLe⟩ :=
      keepsSecond.exists_scoreOf?_le declared
    obtain rfl : score = score' := Option.some.inj (inJoined.symm.trans inJoined')
    exact ⟨first, second, score, inFirst, inSecond, inJoined, max_le_of_le_of_le firstLe secondLe⟩
  · exact max_le_of_le_of_le keepsFirst.maxScore_le keepsSecond.maxScore_le
  · rintro detector rfl known
    have wellFormed := wellFormed_of_builtIn built
    have unreserved := unknown_not_mem_of_builtIn built
    cases known with
    | inl knownFirst => exact keepsFirst.isUnknown_detect_eq_false wellFormed unreserved knownFirst
    | inr knownSecond =>
        exact keepsSecond.isUnknown_detect_eq_false wellFormed unreserved knownSecond

theorem builtIn_growsByLines_import :
    ∃ registry, builtIn .compact = .ok registry ∧
      (Scoreboard.tally registry "Import A").scoreOf? "python" = some 1 ∧
      (∃ score, (Scoreboard.tally registry "#\nImport A").scoreOf? "python" = some score ∧
        1 ≤ score) ∧
      (Detector.detect ⟨registry, .ofProfile .compact, true⟩ "Import A" none).isUnknown = false ∧
      (Detector.detect ⟨registry, .ofProfile .compact, true⟩ "#\nImport A" none).isUnknown =
        false := by
  obtain ⟨registry, built, found⟩ := exists_compact_import
  obtain ⟨registry', built', grows⟩ := builtIn_growsByLines .compact
  obtain rfl := Except.ok.inj (built.symm.trans built')
  obtain ⟨-, scores, -, detects⟩ := grows "#" "Import A"
  have known : (Detector.detect ⟨registry, .ofProfile .compact, true⟩ "Import A" none).isUnknown =
      false :=
    Detector.isUnknown_detect_eq_false_of_scoreOf? (wellFormed_of_builtIn built)
      (unknown_not_mem_of_builtIn built) found (by decide)
  have declared : "python" ∈ registry.ids := by
    rw [(reflects_of_builtIn built).ids, BuiltIn.declaredIds_declarations]
    decide
  obtain ⟨first, second, score, inFirst, inSecond, inJoined, le⟩ := scores "python" declared
  obtain rfl : 1 = second := Option.some.inj (found.symm.trans inSecond)
  refine ⟨registry, built, found, ⟨score, inJoined, ?_⟩, known,
    detects ⟨registry, .ofProfile .compact, true⟩ rfl (.inr known)⟩
  exact UInt32.le_trans (right_le_max first 1) le

end Registry

end LanguageDetection
