import LanguageDetection.Dictionary
import Mathlib.Data.List.Nodup
import Mathlib.Data.String.Basic

/-!
Dictionaries as maps: what is found after an insertion, and in the dictionary of a list of pairs.
Keys stay in ascending order, so a pair is in a dictionary exactly if its value is found.
-/

namespace LanguageDetection.Dictionary

variable {α : Type}

@[simp] theorem find?_nil (key : String) : find? ([] : Dictionary α) key = none := rfl

theorem find?_cons (k : String) (v : α) (rest : Dictionary α) (key : String) :
    find? ((k, v) :: rest) key = if key = k then some v else rest.find? key := by
  simp only [find?, List.lookup_cons]
  by_cases equal : key = k
  · simp [equal]
  · simp [equal, beq_eq_false_iff_ne.mpr equal]

theorem find?_insert (dictionary : Dictionary α) (key : String) (value : α) (other : String) :
    (dictionary.insert key value).find? other =
      if other = key then some value else dictionary.find? other := by
  induction dictionary with
  | nil => rw [insert, find?_cons, find?_nil]
  | cons entry rest ih =>
      obtain ⟨k, v⟩ := entry
      simp only [insert]
      split
      · rw [find?_cons]
      · split
        · rename_i equal
          subst equal
          simp only [find?_cons]
          split <;> rfl
        · rename_i different
          simp only [find?_cons, ih]
          split
          · rename_i equal
            subst equal
            rw [if_neg (Ne.symm different)]
          · rfl

theorem find?_foldl_insert (pairs : List (String × α)) (dictionary : Dictionary α) (key : String) :
    (pairs.foldl (fun dictionary pair => dictionary.insert pair.1 pair.2) dictionary).find? key =
      (pairs.reverse.lookup key).or (dictionary.find? key) := by
  induction pairs generalizing dictionary with
  | nil => rfl
  | cons pair rest ih =>
      obtain ⟨k, v⟩ := pair
      rw [List.foldl_cons, ih, find?_insert, List.reverse_cons, List.lookup_append]
      cases rest.reverse.lookup key with
      | some _ => rfl
      | none =>
          simp only [List.lookup_cons, List.lookup_nil, Option.none_or]
          by_cases equal : key = k
          · simp [equal]
          · simp [equal, beq_eq_false_iff_ne.mpr equal]

theorem find?_ofList (pairs : List (String × α)) (key : String) :
    (ofList pairs).find? key = pairs.reverse.lookup key := by
  rw [ofList, find?_foldl_insert, find?_nil, Option.or_none]

theorem find?_ofList_eq_some_iff {pairs : List (String × α)} (distinct : (pairs.map (·.1)).Nodup)
    (key : String) (value : α) : (ofList pairs).find? key = some value ↔ (key, value) ∈ pairs := by
  rw [find?_ofList, List.lookup_eq_some_iff]
  constructor
  · rintro ⟨before, after, split, -⟩
    rw [← List.mem_reverse, split]
    exact List.mem_append_right _ List.mem_cons_self
  · intro member
    obtain ⟨before, after, split⟩ := List.append_of_mem (List.mem_reverse.mpr member)
    refine ⟨before, after, split, ?_⟩
    intro pair earlier
    have reversed := List.nodup_reverse.mpr distinct
    rw [← List.map_reverse, split, List.map_append, List.map_cons] at reversed
    have apart := (List.nodup_append.mp reversed).2.2 pair.1 (List.mem_map_of_mem earlier) key
      List.mem_cons_self
    simpa using Ne.symm apart

def Ascending (dictionary : Dictionary α) : Prop :=
  List.Pairwise (fun a b => a.1 < b.1) dictionary

theorem eq_or_mem_of_mem_insert {dictionary : Dictionary α} {key : String} {value : α}
    {pair : String × α} (member : pair ∈ dictionary.insert key value) :
    pair = (key, value) ∨ pair ∈ dictionary := by
  induction dictionary with
  | nil => exact Or.inl (List.mem_singleton.mp member)
  | cons entry rest ih =>
      obtain ⟨k, v⟩ := entry
      simp only [insert] at member
      split at member
      · exact List.mem_cons.mp member
      · split at member
        · rcases List.mem_cons.mp member with equal | inRest
          · exact Or.inl equal
          · exact Or.inr (List.mem_cons_of_mem _ inRest)
        · rcases List.mem_cons.mp member with equal | inserted
          · exact Or.inr (equal ▸ List.mem_cons_self)
          · exact (ih inserted).imp_right (List.mem_cons_of_mem _)

theorem Ascending.insert {dictionary : Dictionary α} (ascending : dictionary.Ascending)
    (key : String) (value : α) : (dictionary.insert key value).Ascending := by
  induction dictionary with
  | nil => exact List.pairwise_singleton _ _
  | cons entry rest ih =>
      obtain ⟨k, v⟩ := entry
      obtain ⟨below, restAscending⟩ := List.pairwise_cons.mp ascending
      simp only [Dictionary.insert]
      split
      · rename_i less
        refine List.pairwise_cons.mpr ⟨?_, ascending⟩
        intro pair member
        rcases List.mem_cons.mp member with rfl | inRest
        · exact less
        · exact less.trans (below pair inRest)
      · rename_i notLess
        split
        · rename_i equal
          subst equal
          exact List.pairwise_cons.mpr ⟨below, restAscending⟩
        · rename_i different
          refine List.pairwise_cons.mpr ⟨?_, ih restAscending⟩
          intro pair member
          rcases eq_or_mem_of_mem_insert member with rfl | inRest
          · exact lt_of_le_of_ne (not_lt.mp notLess) (Ne.symm different)
          · exact below pair inRest

theorem ascending_foldl_insert (pairs : List (String × α)) {dictionary : Dictionary α}
    (ascending : dictionary.Ascending) :
    Ascending (pairs.foldl (fun dictionary pair => dictionary.insert pair.1 pair.2) dictionary) := by
  induction pairs generalizing dictionary with
  | nil => exact ascending
  | cons pair rest ih => exact ih (ascending.insert pair.1 pair.2)

theorem ascending_ofList (pairs : List (String × α)) : (ofList pairs).Ascending :=
  ascending_foldl_insert pairs List.Pairwise.nil

theorem Ascending.mem_iff {dictionary : Dictionary α} (ascending : dictionary.Ascending)
    (key : String) (value : α) :
    (key, value) ∈ dictionary ↔ dictionary.find? key = some value := by
  induction dictionary with
  | nil => simp
  | cons entry rest ih =>
      obtain ⟨k, v⟩ := entry
      obtain ⟨below, restAscending⟩ := List.pairwise_cons.mp ascending
      rw [List.mem_cons, find?_cons, ih restAscending]
      by_cases equal : key = k
      · subst equal
        -- The key of the first pair is below all others, so it is not found again.
        have absent : Dictionary.find? rest key ≠ some value := by
          intro found
          exact lt_irrefl key (below (key, value) ((ih restAscending).mpr found))
        simp [absent, eq_comm]
      · simp [equal]

/-- Dictionaries with their keys in order are told apart by what is found in them. -/
theorem Ascending.ext {a b : Dictionary α} (aAscending : a.Ascending) (bAscending : b.Ascending)
    (same : ∀ key, a.find? key = b.find? key) : a = b := by
  have members : ∀ pair, pair ∈ a ↔ pair ∈ b := by
    intro pair
    rw [aAscending.mem_iff pair.1 pair.2, bAscending.mem_iff pair.1 pair.2, same]
  have nodup : ∀ {c : Dictionary α}, c.Ascending → c.Nodup := fun ascending =>
    ascending.imp fun less equal => absurd (congrArg Prod.fst equal) less.ne
  have perm : a.Perm b :=
    (List.perm_ext_iff_of_nodup (nodup aAscending) (nodup bAscending)).mpr members
  refine perm.eq_of_pairwise ?_ aAscending bAscending
  intro x y _ _ less greater
  exact absurd less (not_lt_of_gt greater)

theorem mem_ofList_iff (pairs : List (String × α)) (key : String) (value : α) :
    (key, value) ∈ ofList pairs ↔ pairs.reverse.lookup key = some value := by
  rw [(ascending_ofList pairs).mem_iff, find?_ofList]

theorem mem_of_mem_ofList {pairs : List (String × α)} {pair : String × α}
    (member : pair ∈ ofList pairs) : pair ∈ pairs := by
  -- What is found under a key is one of the pairs, the last with that key.
  obtain ⟨before, after, split, -⟩ :=
    List.lookup_eq_some_iff.mp ((mem_ofList_iff pairs pair.1 pair.2).mp member)
  rw [← List.mem_reverse, split]
  exact List.mem_append_right _ List.mem_cons_self

end LanguageDetection.Dictionary
