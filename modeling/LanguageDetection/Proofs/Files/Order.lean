import LanguageDetection.Files.Path
import Mathlib.Data.List.Chain
import Mathlib.Data.List.Lex
import Mathlib.Data.List.Sort
import Mathlib.Data.Finset.Card
import Mathlib.Data.Prod.Lex
import Mathlib.Data.String.Basic

/-!
The order of paths: paths with the same parts are the same, and of two that are not one is less. So
sorted paths are all there, each once.
-/

namespace LanguageDetection.Files

namespace Part

def key : Part → ℕ ×ₗ String
  | .name text => toLex (3, text)
  | part => toLex (part.rank, "")

theorem key_injective : Function.Injective key := by
  intro a b same
  cases a <;> cases b <;> simp_all [key, rank]

theorem lt_iff (a b : Part) : a.lt b = true ↔ a.key < b.key := by
  cases a <;> cases b <;> simp [lt, key, rank, Prod.Lex.toLex_lt_toLex]

end Part

namespace Path

def key (path : Path) : List (ℕ ×ₗ String) :=
  path.parts.map Part.key

theorem partsLt_iff (as bs : List Part) :
    partsLt as bs = true ↔ as.map Part.key < bs.map Part.key := by
  induction as generalizing bs with
  | nil => cases bs <;> simp [partsLt]
  | cons a as ih =>
      cases bs with
      | nil => simp [partsLt]
      | cons b bs =>
          rw [List.map_cons, List.map_cons, List.cons_lt_cons_iff, ← ih, ← Part.lt_iff, partsLt,
            Bool.or_eq_true, Bool.and_eq_true, beq_iff_eq, Part.key_injective.eq_iff]

theorem lt_iff (a b : Path) : lt a b = true ↔ a.key < b.key :=
  partsLt_iff a.parts b.parts

theorem key_eq_iff (a b : Path) : a.key = b.key ↔ a.parts = b.parts :=
  (List.map_injective_iff.mpr Part.key_injective).eq_iff

theorem same_iff (a b : Path) : same a b = true ↔ a.key = b.key := by
  rw [same, beq_iff_eq, key_eq_iff]

section Distinct

variable {path : Path} {paths : List Path}

/-- Of two neighbours with the same parts the second one goes. -/
theorem distinct_cons (path : Path) (paths : List Path) :
    (distinct (path :: paths) = path :: distinct paths ∧
      ∀ next ∈ (distinct paths).head?, path.key ≠ next.key) ∨
    ∃ next others, distinct paths = next :: others ∧ path.key = next.key ∧
      distinct (path :: paths) = path :: others := by
  cases rest : distinct paths with
  | nil => exact .inl ⟨by rw [distinct, rest], by simp⟩
  | cons next others =>
      by_cases repeated : same path next = true
      · refine .inr ⟨next, others, rfl, (same_iff path next).mp repeated, ?_⟩
        simp [distinct, rest, repeated]
      · refine .inl ⟨by simp [distinct, rest, repeated], fun other head equal => repeated ?_⟩
        cases head
        exact (same_iff path next).mpr equal

theorem distinct_sublist (paths : List Path) : (distinct paths).Sublist paths := by
  induction paths with
  | nil => exact List.nil_sublist []
  | cons path rest ih =>
      rcases distinct_cons path rest with ⟨kept, -⟩ | ⟨next, others, split, -, dropped⟩
      · rw [kept]
        exact ih.cons_cons path
      · rw [dropped]
        rw [split] at ih
        exact ((List.sublist_cons_self next others).trans ih).cons_cons path

theorem exists_key_eq_of_mem (member : path ∈ paths) :
    ∃ other ∈ distinct paths, other.key = path.key := by
  induction paths with
  | nil => contradiction
  | cons first rest ih =>
      rcases distinct_cons first rest with ⟨kept, -⟩ | ⟨next, others, split, repeated, dropped⟩
      · rw [kept]
        rcases List.mem_cons.mp member with rfl | member
        · exact ⟨path, List.mem_cons_self, rfl⟩
        · obtain ⟨other, found, equal⟩ := ih member
          exact ⟨other, List.mem_cons_of_mem first found, equal⟩
      · rw [dropped]
        rcases List.mem_cons.mp member with rfl | member
        · exact ⟨path, List.mem_cons_self, rfl⟩
        · obtain ⟨other, found, equal⟩ := ih member
          rw [split, List.mem_cons] at found
          rcases found with rfl | found
          · exact ⟨first, List.mem_cons_self, repeated.trans equal⟩
          · exact ⟨other, List.mem_cons_of_mem first found, equal⟩

theorem sortedLT_distinct (sorted : (paths.map key).SortedLE) :
    ((distinct paths).map key).SortedLT := by
  induction paths with
  | nil => exact List.sortedLT_iff_pairwise.mpr .nil
  | cons path rest ih =>
      rw [List.map_cons, List.sortedLE_iff_pairwise, List.pairwise_cons] at sorted
      obtain ⟨least, sorted⟩ := sorted
      have increasing := ih sorted.sortedLE
      rcases distinct_cons path rest with ⟨kept, differs⟩ | ⟨next, others, split, equal, dropped⟩
      · rw [kept, List.map_cons, List.sortedLT_iff_isChain, List.isChain_cons]
        -- The next path left is one of those after this one, so it is no less.
        refine ⟨fun k head => ?_, increasing.isChain⟩
        rw [List.head?_map, Option.mem_map] at head
        obtain ⟨next, head, rfl⟩ := head
        have member := (distinct_sublist rest).subset (List.mem_of_mem_head? head)
        exact lt_of_le_of_ne (least next.key (List.mem_map_of_mem member)) (differs next head)
      · rwa [dropped, List.map_cons, equal, ← List.map_cons, ← split]

end Distinct

/-- A list of the given paths: in order, and each of them once. -/
structure Enumerates (listed given : List Path) : Prop where
  ascending : listed.Pairwise fun a b => lt a b = true
  sound : ∀ path ∈ listed, path ∈ given
  complete : ∀ path ∈ given, ∃ other ∈ listed, same other path = true

theorem sortedLE_mergeSort (paths : List Path) :
    ((paths.mergeSort fun a b => !lt b a).map key).SortedLE := by
  have le_iff : ∀ a b : Path, (!lt b a) = true ↔ a.key ≤ b.key := by
    intro a b
    rw [Bool.not_eq_true', ← Bool.not_eq_true, lt_iff, not_lt]
  rw [List.sortedLE_iff_pairwise, List.pairwise_map]
  refine (List.pairwise_mergeSort ?_ ?_ paths).imp fun {a b} => (le_iff a b).mp
  · intro a b c first second
    rw [le_iff] at *
    exact first.trans second
  · intro a b
    rw [Bool.or_eq_true, le_iff, le_iff]
    exact le_total a.key b.key

theorem enumerates_sorted (paths : List Path) : Enumerates (sorted paths) paths where
  ascending := by
    simp only [lt_iff]
    exact List.pairwise_map.mp (sortedLT_distinct (sortedLE_mergeSort paths)).pairwise
  sound path member := List.mem_mergeSort.mp ((distinct_sublist _).subset member)
  complete path member := by
    obtain ⟨other, found, equal⟩ := exists_key_eq_of_mem (List.mem_mergeSort.mpr member)
    exact ⟨other, found, (same_iff other path).mpr equal⟩

namespace Enumerates

variable {listed given : List Path}

theorem mem_map_parts_iff (enumerates : Enumerates listed given) (ps : List Part) :
    ps ∈ listed.map parts ↔ ps ∈ given.map parts := by
  rw [List.mem_map, List.mem_map]
  constructor
  · rintro ⟨path, member, rfl⟩
    exact ⟨path, enumerates.sound path member, rfl⟩
  · rintro ⟨path, member, rfl⟩
    obtain ⟨other, found, equal⟩ := enumerates.complete path member
    exact ⟨other, found, beq_iff_eq.mp equal⟩

theorem nodup_parts (enumerates : Enumerates listed given) : (listed.map parts).Nodup := by
  rw [List.Nodup, List.pairwise_map]
  refine enumerates.ascending.imp fun {a b} less equal => ?_
  rw [lt_iff, (key_eq_iff a b).mpr equal] at less
  exact lt_irrefl b.key less

theorem length_eq (enumerates : Enumerates listed given) :
    listed.length = (given.map parts).toFinset.card := by
  rw [← List.length_map parts, ← List.toFinset_card_of_nodup enumerates.nodup_parts]
  congr 1
  ext ps
  rw [List.mem_toFinset, List.mem_toFinset, enumerates.mem_map_parts_iff]

theorem eq_singleton {path : Path} (enumerates : Enumerates listed [path]) : listed = [path] := by
  obtain ⟨other, rfl⟩ := List.length_eq_one_iff.mp enumerates.length_eq
  rw [List.mem_singleton.mp (enumerates.sound other List.mem_cons_self)]

end Enumerates

end Path

end LanguageDetection.Files
