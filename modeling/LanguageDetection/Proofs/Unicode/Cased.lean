import LanguageDetection.Text.Blank
import LanguageDetection.Unicode.WordChar
import Mathlib.Data.String.Basic

/-!
Looking characters up: what is found in a set by bisection lies in an interval of the table that the
set is made from. So a character is not cased if no interval of that table holds it, and neither
white space nor a dot is.
-/

namespace LanguageDetection.Unicode

def Interval.Holds (i : Interval) (n : Nat) : Prop :=
  i.first ≤ n ∧ n ≤ i.last

namespace Intervals

theorem exists_of_bisect {set : Array Interval} {n steps low high : Nat}
    (found : bisect set n steps low high = true) : ∃ i ∈ set, i.Holds n := by
  induction steps generalizing low high with
  | zero => contradiction
  | succ steps ih =>
      rw [bisect] at found
      split at found
      · simp only at found
        split at found
        · contradiction
        · rename_i i atMiddle
          split at found
          · exact ih found
          · rename_i notBelow
            split at found
            · exact ih found
            · rename_i notAbove
              exact ⟨i, Array.mem_of_getElem? atMiddle, Nat.not_lt.mp notBelow,
                Nat.not_lt.mp notAbove⟩
      · contradiction

theorem exists_of_mem_join_go {current i : Interval} {set : Intervals} {n : Nat}
    (member : i ∈ join.go current set) (holds : i.Holds n) : ∃ j ∈ current :: set, j.Holds n := by
  induction set generalizing current with
  | nil =>
      rw [join.go, List.mem_singleton] at member
      exact ⟨current, List.mem_cons_self, member ▸ holds⟩
  | cons next rest ih =>
      rw [join.go] at member
      split at member
      · rename_i touches
        obtain ⟨j, inJoined, first, last⟩ := ih member
        rcases List.mem_cons.mp inJoined with rfl | inRest
        · -- There is no gap between the two, so what is not in the first is in the second.
          simp only at first last
          by_cases inCurrent : n ≤ current.last
          · exact ⟨current, List.mem_cons_self, first, inCurrent⟩
          · refine ⟨next, List.mem_cons_of_mem _ List.mem_cons_self, ?_, ?_⟩ <;> omega
        · exact ⟨j, List.mem_cons_of_mem _ (List.mem_cons_of_mem _ inRest), first, last⟩
      · rcases List.mem_cons.mp member with rfl | inRest
        · exact ⟨i, List.mem_cons_self, holds⟩
        · obtain ⟨j, inNext, holdsNext⟩ := ih inRest
          exact ⟨j, List.mem_cons_of_mem _ inNext, holdsNext⟩

theorem mem_place_iff {i j : Interval} {set : Intervals} :
    j ∈ place i set ↔ j = i ∨ j ∈ set := by
  induction set with
  | nil => simp [place]
  | cons k rest ih =>
      rw [place]
      split
      · simp
      · rw [List.mem_cons, ih, List.mem_cons, or_left_comm]

theorem mem_foldr_place_iff {j : Interval} {set : Intervals} :
    j ∈ set.foldr place [] ↔ j ∈ set := by
  induction set with
  | nil => rfl
  | cons i rest ih => rw [List.foldr_cons, mem_place_iff, ih, List.mem_cons]

theorem exists_of_mem_canonical {i : Interval} {set : Intervals} {n : Nat}
    (member : i ∈ canonical set) (holds : i.Holds n) : ∃ j ∈ set, j.Holds n := by
  unfold canonical join at member
  split at member
  · contradiction
  · rename_i current rest sorted
    obtain ⟨j, inSorted, holdsThere⟩ := exists_of_mem_join_go member holds
    rw [← sorted, mem_foldr_place_iff] at inSorted
    exact ⟨j, inSorted, holdsThere⟩

/-- A table is checked by its characters, which need not be decoded from the bytes of its text. -/
theorem all_ofTable {text : String} {chars : List Char} {check : Interval → Bool}
    (same : text = String.ofList chars)
    (checked : (ofTable.go 0 (numbersOf.go none chars)).all check = true) :
    (ofTable text).all check = true := by
  subst same
  rwa [ofTable, numbersOf, String.toList_ofList]

end Intervals

def Interval.avoids (numbers : List Nat) (i : Interval) : Bool :=
  numbers.all fun n => Nat.blt n i.first || Nat.blt i.last n

theorem Interval.not_holds_of_avoids {numbers : List Nat} {i : Interval}
    (avoids : i.avoids numbers = true) {n : Nat} (member : n ∈ numbers) : ¬ i.Holds n := by
  have apart := List.all_eq_true.mp avoids n member
  simp only [Bool.or_eq_true, Nat.blt_eq] at apart
  rintro ⟨first, last⟩
  omega

theorem cased_eq :
    cased = (Intervals.canonical ((Row.find? Table.properties "cased").getD [])).toArray := by
  change (Intervals.canonical (([] : List String).flatMap _
    ++ ["cased"].flatMap fun name => (Row.find? Table.properties name).getD [])).toArray = _
  rw [List.flatMap_nil, List.flatMap_singleton, List.nil_append]

theorem exists_of_isCased {c : Char} (isCased : isCased c = true) :
    ∃ i ∈ (Row.find? Table.properties "cased").getD [], i.Holds c.toNat := by
  change Intervals.bisect cased c.toNat cased.size 0 cased.size = true at isCased
  obtain ⟨i, member, holds⟩ := Intervals.exists_of_bisect isCased
  rw [cased_eq, List.mem_toArray] at member
  exact Intervals.exists_of_mem_canonical member holds

/-- The numbers of white space and of the dot. -/
private def uncased : List Nat := [
  9, 10, 11, 12, 13, 0x20, 0x2E, 0x85, 0xA0, 0x1680, 0x2000, 0x2001, 0x2002, 0x2003, 0x2004,
  0x2005, 0x2006, 0x2007, 0x2008, 0x2009, 0x200A, 0x2028, 0x2029, 0x202F, 0x205F, 0x3000]

set_option maxRecDepth 20000 in
private theorem uncased_avoided : ∃ row,
    Table.properties.find? (·.names.contains "cased") = some row ∧
      (Intervals.ofTable row.table).all (Interval.avoids uncased) = true := by
  refine ⟨_, rfl, Intervals.all_ofTable rfl ?_⟩
  decide +kernel

private theorem isCased_of_mem_uncased {c : Char} (member : c.toNat ∈ uncased) :
    isCased c = false := by
  rw [Bool.eq_false_iff]
  intro isCased
  obtain ⟨i, inTable, holds⟩ := exists_of_isCased isCased
  obtain ⟨row, found, avoided⟩ := uncased_avoided
  rw [Row.find?, found] at inTable
  exact Interval.not_holds_of_avoids (List.all_eq_true.mp avoided i inTable) member holds

theorem isCased_of_isBlank {c : Char} (blank : Text.isBlank c = true) : isCased c = false := by
  apply isCased_of_mem_uncased
  simp only [Text.isBlank, Bool.or_eq_true, Bool.and_eq_true, decide_eq_true_eq, beq_iff_eq]
    at blank
  simp only [uncased, List.mem_cons, List.not_mem_nil, or_false]
  omega

theorem isCased_dot : isCased '.' = false :=
  isCased_of_mem_uncased (by decide)

end LanguageDetection.Unicode
