import LanguageDetection.Text.Split
import Mathlib.Data.String.Basic

/-!
Texts cut at a separator, and put together around one.
-/

namespace LanguageDetection.Text

variable {separator : Char}

theorem splitChars_eq_splitOn (separator : Char) (chars : List Char) :
    splitChars separator chars = chars.splitOn separator := by
  induction chars with
  | nil => rw [splitChars, List.splitOn_nil]
  | cons c rest ih =>
      rw [splitChars, ih, List.splitOn_cons_eq_if_modifyHead]
      split
      · rfl
      · cases pieces : rest.splitOn separator with
        | nil => exact absurd pieces (List.splitOn_ne_nil separator rest)
        | cons piece others => rfl

theorem splitChars_ne_nil (separator : Char) (chars : List Char) :
    splitChars separator chars ≠ [] := by
  rw [splitChars_eq_splitOn]
  exact List.splitOn_ne_nil separator chars

theorem splitChars_of_not_mem {chars : List Char} (absent : separator ∉ chars) :
    splitChars separator chars = [chars] := by
  rw [splitChars_eq_splitOn, List.splitOn_eq_singleton absent]

theorem splitChars_append_cons (before after : List Char) :
    splitChars separator (before ++ separator :: after) =
      splitChars separator before ++ splitChars separator after := by
  simp only [splitChars_eq_splitOn]
  exact List.splitOn_append_cons_self before after

theorem splitChars_inj {chars others : List Char} :
    splitChars separator chars = splitChars separator others ↔ chars = others := by
  constructor
  · intro same
    rw [splitChars_eq_splitOn, splitChars_eq_splitOn] at same
    have joined := congrArg [separator].intercalate same
    rwa [List.intercalate_splitOn, List.intercalate_splitOn] at joined
  · exact congrArg _

theorem splitChars_separator_cons (separator : Char) (rest : List Char) :
    splitChars separator (separator :: rest) = [] :: splitChars separator rest := by
  rw [splitChars, if_pos BEq.rfl]

theorem splitChars_cons_of_ne {c : Char} {rest piece : List Char} {pieces : List (List Char)}
    (other : c ≠ separator) (split : splitChars separator rest = piece :: pieces) :
    splitChars separator (c :: rest) = (c :: piece) :: pieces := by
  rw [splitChars, if_neg (mt eq_of_beq other), split]

theorem flatten_splitChars (separator : Char) (chars : List Char) :
    (splitChars separator chars).flatten = chars.filter (· != separator) := by
  induction chars with
  | nil => rfl
  | cons c rest ih =>
      by_cases same : c = separator
      · rw [same, splitChars_separator_cons, List.flatten_cons, List.nil_append, ih,
          List.filter_cons_of_neg (by simp)]
      · obtain ⟨piece, pieces, split⟩ :=
          List.exists_cons_of_ne_nil (splitChars_ne_nil separator rest)
        rw [splitChars_cons_of_ne same split, List.flatten_cons, List.cons_append,
          ← List.flatten_cons, ← split, ih, List.filter_cons_of_pos (by simpa using same)]

theorem split_ne_nil (separator : Char) (text : String) : split separator text ≠ [] :=
  fun nothing => splitChars_ne_nil separator text.toList (List.map_eq_nil_iff.mp nothing)

theorem split_of_not_mem {text : String} (absent : separator ∉ text.toList) :
    split separator text = [text] := by
  rw [split, splitChars_of_not_mem absent, List.map_singleton, String.ofList_toList]

theorem split_eq_append {text before after : String}
    (apart : text.toList = before.toList ++ separator :: after.toList) :
    split separator text = split separator before ++ split separator after := by
  rw [split, apart, splitChars_append_cons, List.map_append, split, split]

/-- No separator at either end, and no two side by side. -/
structure IsSeparated (separator : Char) (chars : List Char) : Prop where
  head?_ne : chars.head? ≠ some separator
  getLast?_ne : chars.getLast? ≠ some separator
  not_doubled : ¬ [separator, separator] <:+: chars

/-- Around a separator that is stray there is an empty piece. -/
theorem isSeparated_of_nil_not_mem {chars : List Char}
    (nonempty : [] ∉ splitChars separator chars) : IsSeparated separator chars := by
  have around (before after : List Char) (eq : chars = before ++ separator :: after) :
      [] ∉ splitChars separator before ∧ [] ∉ splitChars separator after := by
    rwa [eq, splitChars_append_cons, List.mem_append, not_or] at nonempty
  have nothing : [] ∈ splitChars separator [] := List.mem_singleton_self []
  constructor
  case head?_ne =>
    intro leading
    obtain ⟨rest, eq⟩ := List.head?_eq_some_iff.mp leading
    exact (around [] rest eq).1 nothing
  case getLast?_ne =>
    intro trailing
    obtain ⟨front, eq⟩ := List.getLast?_eq_some_iff.mp trailing
    exact (around front [] eq).2 nothing
  case not_doubled =>
    intro ⟨before, after, eq⟩
    have doubled : chars = before ++ separator :: ([] ++ separator :: after) := by simpa using eq.symm
    apply (around before _ doubled).2
    rw [splitChars_append_cons]
    exact List.mem_append_left _ nothing

end LanguageDetection.Text
