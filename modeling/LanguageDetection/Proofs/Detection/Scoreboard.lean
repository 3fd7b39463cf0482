import LanguageDetection.Detection.Scoreboard
import LanguageDetection.Proofs.Signature.Weight

/-!
Leaders: the loop over the entries finds the first of those with the highest score, and its score is
the highest on the board. On the board of a text it belongs to the first of the languages whose
matching rules weigh most.
-/

namespace LanguageDetection

open LanguageDetection.Text

namespace Scoreboard

/-- What the best entry so far is to the entries so far. -/
def Leads (entries : List Score) : Option Score → Prop
  | none => ∀ entry ∈ entries, entry.score = 0
  | some leader => 0 < leader.score ∧ ∃ before after, entries = before ++ leader :: after ∧
      (∀ entry ∈ before, entry.score < leader.score) ∧ ∀ entry ∈ after, entry.score ≤ leader.score

def scoreOf (best : Option Score) : UInt32 :=
  (best.map (·.score)).getD 0

theorem Leads.score_le {entries : List Score} {best : Option Score} (leads : Leads entries best) :
    ∀ entry ∈ entries, entry.score ≤ scoreOf best := by
  intro entry member
  cases best with
  | none =>
      rw [leads entry member]
      exact UInt32.le_refl 0
  | some leader =>
      obtain ⟨-, before, after, rfl, below, notAbove⟩ := leads
      rcases List.mem_append.mp member with inBefore | inRest
      · exact UInt32.le_of_lt (below entry inBefore)
      · rcases List.mem_cons.mp inRest with rfl | inAfter
        · exact UInt32.le_refl _
        · exact notAbove entry inAfter

theorem Leads.better {entries : List Score} {best : Option Score} (leads : Leads entries best)
    (entry : Score) : Leads (entries ++ [entry]) (Scoreboard.better best entry) := by
  have score_le := leads.score_le
  unfold Scoreboard.better
  split
  · rename_i above
    -- What is above the leader is above all that the leader led.
    refine ⟨UInt32.lt_of_le_of_lt UInt32.zero_le above, entries, [], rfl, ?_, ?_⟩
    · intro other member
      exact UInt32.lt_of_le_of_lt (score_le other member) above
    · intro other member
      contradiction
  · rename_i notAbove
    have le : entry.score ≤ scoreOf best := UInt32.not_lt.mp notAbove
    cases best with
    | none =>
        intro other member
        rcases List.mem_append.mp member with old | new
        · exact leads other old
        · rw [List.mem_singleton.mp new]
          exact UInt32.le_zero_iff.mp le
    | some leader =>
        obtain ⟨positive, before, after, rfl, below, notAbove⟩ := leads
        refine ⟨positive, before, after ++ [entry], by simp, below, ?_⟩
        intro other member
        rcases List.mem_append.mp member with old | new
        · exact notAbove other old
        · rw [List.mem_singleton.mp new]
          exact le

theorem Leads.foldl_better {entries : List Score} {best : Option Score}
    (leads : Leads entries best) (more : List Score) :
    Leads (entries ++ more) (more.foldl Scoreboard.better best) := by
  -- On the entries to come, since those before them only matter through their best.
  induction more generalizing entries best with
  | nil => rwa [List.append_nil]
  | cons entry rest ih =>
      have next := ih (leads.better entry)
      rwa [List.append_assoc] at next

theorem leads_leader? (board : Scoreboard) : Leads board.entries board.leader? := by
  have nothing : Leads [] none := fun entry member => absurd member List.not_mem_nil
  exact nothing.foldl_better board.entries

theorem scoreOf_better (best : Option Score) (entry : Score) :
    scoreOf (better best entry) = max (scoreOf best) entry.score := by
  change _ = if scoreOf best ≤ entry.score then entry.score else scoreOf best
  unfold better
  split
  · rename_i above
    have le : scoreOf best ≤ entry.score := UInt32.le_of_lt above
    rw [if_pos le]
    rfl
  · rename_i notAbove
    split
    · rename_i le
      exact UInt32.le_antisymm le (UInt32.not_lt.mp notAbove)
    · rfl

theorem maxScore_eq (board : Scoreboard) : board.maxScore = scoreOf board.leader? := by
  -- From any start, so that the two loops can be compared entry by entry.
  have loops : ∀ (entries : List Score) (best : Option Score),
      entries.foldl (fun best entry => max best entry.score) (scoreOf best) =
        scoreOf (entries.foldl better best) := by
    intro entries
    induction entries with
    | nil => intro best; rfl
    | cons entry rest ih =>
        intro best
        rw [List.foldl_cons, List.foldl_cons, ← scoreOf_better, ih]
  exact loops board.entries none

end Scoreboard

def Language.matchingRules (language : Language) (text : String) : List Rule :=
  language.rules.filter (·.isMatch text)

/-- What the matching rules of a language weigh together, up to the greatest weight. -/
def Language.exactScore (language : Language) (text : String) : Nat :=
  min greatestWeight (weightSum (language.matchingRules text))

/-- The first of the languages with the highest score. -/
structure Registry.IsFirstBest (registry : Registry) (text : String) (winner : Language) : Prop where
  best : ∀ language ∈ registry.languages, language.exactScore text ≤ winner.exactScore text
  first : ∃ before after, registry.languages = before ++ winner :: after ∧
    ∀ language ∈ before, language.exactScore text < winner.exactScore text

theorem Registry.IsFirstBest.mem {registry : Registry} {text : String} {winner : Language}
    (firstBest : registry.IsFirstBest text winner) : winner ∈ registry.languages := by
  obtain ⟨before, after, split, -⟩ := firstBest.first
  rw [split]
  exact List.mem_append_right _ List.mem_cons_self

def Language.entry (language : Language) (text : String) : Score :=
  language.score (Utf8.encode text)

theorem Language.score_entry (language : Language) (text : String) :
    (language.entry text).score = weightOf (language.matchingRules text) := rfl

theorem Language.toNat_score_entry (language : Language) (text : String) :
    (language.entry text).score.toNat = language.exactScore text :=
  toNat_weightOf _

theorem Language.score_entry_pos_iff {language : Language} {text : String}
    (weighted : ∀ rule ∈ language.rules, rule.weight ≠ 0) :
    0 < (language.entry text).score ↔ ∃ rule ∈ language.rules, rule.isMatch text = true := by
  have positive : ∀ rule ∈ language.matchingRules text, rule.weight ≠ 0 :=
    fun rule member => weighted rule (List.mem_filter.mp member).1
  rw [score_entry, weightOf_pos_iff positive, matchingRules, Ne, List.filter_eq_nil_iff]
  simp

namespace Scoreboard

theorem leader?_tally_eq_none {registry : Registry} {text : String}
    (noLeader : (tally registry text).leader? = none) :
    ∀ language ∈ registry.languages, (language.entry text).score = 0 := by
  have leads := leads_leader? (tally registry text)
  rw [noLeader] at leads
  intro language member
  exact leads _ (List.mem_map_of_mem member)

theorem leader?_tally_eq_some {registry : Registry} {text : String} {leader : Score}
    (found : (tally registry text).leader? = some leader) :
    0 < leader.score ∧
      ∃ winner, registry.IsFirstBest text winner ∧ leader = winner.entry text := by
  have leads := leads_leader? (tally registry text)
  rw [found] at leads
  obtain ⟨positive, before', after', split, below, notAbove⟩ := leads
  refine ⟨positive, ?_⟩
  -- There is one entry for each language, so where the leader stands its language stands.
  obtain ⟨before, rest, languages, mapBefore, mapRest⟩ := List.map_eq_append_iff.mp split
  obtain ⟨winner, after, rfl, mapWinner, mapAfter⟩ := List.map_eq_cons_iff.mp mapRest
  have isEntry : leader = winner.entry text := mapWinner.symm
  have lower : ∀ language ∈ before, language.exactScore text < winner.exactScore text := by
    intro language member
    have lt := below (language.entry text) (by rw [← mapBefore]; exact List.mem_map_of_mem member)
    rwa [isEntry, UInt32.lt_iff_toNat_lt, Language.toNat_score_entry,
      Language.toNat_score_entry] at lt
  have notHigher : ∀ language ∈ after, language.exactScore text ≤ winner.exactScore text := by
    intro language member
    have le := notAbove (language.entry text) (by rw [← mapAfter]; exact List.mem_map_of_mem member)
    rwa [isEntry, UInt32.le_iff_toNat_le, Language.toNat_score_entry,
      Language.toNat_score_entry] at le
  refine ⟨winner, ⟨?_, before, after, languages, lower⟩, isEntry⟩
  intro language member
  rw [languages] at member
  rcases List.mem_append.mp member with inBefore | inRest
  · exact Nat.le_of_lt (lower language inBefore)
  · rcases List.mem_cons.mp inRest with rfl | inAfter
    · exact Nat.le_refl _
    · exact notHigher language inAfter

end Scoreboard

end LanguageDetection
