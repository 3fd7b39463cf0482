import LanguageDetection.Proofs.Pattern.Ascii

/-!
Expressions that ignore case: every set of bytes has a letter in both cases or in neither. They match
a word in whatever case it and its surroundings are written.
-/

namespace LanguageDetection.Text

/-- Whether texts have the same characters in the same places, but for the case of ASCII letters. -/
def SameLetters (s t : String) : Prop :=
  List.Forall₂ (fun c d => c.toLower = d.toLower) s.toList t.toList

def isUpperByte (byte : UInt8) : Bool := 0x41 ≤ byte && byte ≤ 0x5A

def isLowerByte (byte : UInt8) : Bool := 0x61 ≤ byte && byte ≤ 0x7A

def lowerByte (byte : UInt8) : UInt8 :=
  if isUpperByte byte then byte + 0x20 else byte

def swapCase (byte : UInt8) : UInt8 :=
  if isUpperByte byte then byte + 0x20
  else if isLowerByte byte then byte - 0x20
  else byte

theorem SameLetters.map_toLower_eq {s t : String} (same : SameLetters s t) :
    s.toList.map Char.toLower = t.toList.map Char.toLower := by
  have equal : List.Forall₂ Eq (s.toList.map Char.toLower) (t.toList.map Char.toLower) :=
    List.forall₂_map_left_iff.mpr (List.forall₂_map_right_iff.mpr same)
  rwa [List.forall₂_eq_eq_eq] at equal

theorem lowerByte_of_not_isAsciiByte {byte : UInt8} (notAscii : isAsciiByte byte = false) :
    lowerByte byte = byte := by
  unfold isAsciiByte at notAscii
  unfold lowerByte isUpperByte
  grind

theorem isUpperByte_iff {byte : UInt8} :
    isUpperByte byte = true ↔ 0x41 ≤ byte.toNat ∧ byte.toNat ≤ 0x5A := by
  simp [isUpperByte, UInt8.le_iff_toNat_le]

theorem isLowerByte_iff {byte : UInt8} :
    isLowerByte byte = true ↔ 0x61 ≤ byte.toNat ∧ byte.toNat ≤ 0x7A := by
  simp [isLowerByte, UInt8.le_iff_toNat_le]

theorem swapCase_swapCase (byte : UInt8) : swapCase (swapCase byte) = byte := by
  unfold swapCase isUpperByte isLowerByte
  grind

theorem toLower_of_not_isAscii {c : Char} (foreign : c.isAscii = false) : c.toLower = c := by
  have large : ¬ c.val < 128 := of_decide_eq_false foreign
  unfold Char.toLower
  grind

namespace Utf8

theorem map_lowerByte_utf8EncodeChar (c : Char) :
    (String.utf8EncodeChar c).map lowerByte = String.utf8EncodeChar c.toLower := by
  cases isAscii : c.isAscii with
  | true =>
      have checked : ∀ n < 128, (Char.ofNat n).toLower.isAscii = true ∧
          lowerByte (UInt8.ofNat n) = UInt8.ofNat (Char.ofNat n).toLower.toNat := by decide +kernel
      have small : c.toNat < 128 := of_decide_eq_true isAscii
      obtain ⟨lowerAscii, same⟩ := checked c.toNat small
      rw [Char.ofNat_toNat] at lowerAscii same
      rw [utf8EncodeChar_of_isAscii isAscii, utf8EncodeChar_of_isAscii lowerAscii,
        List.map_singleton, same]
  | false =>
      have unchanged : ∀ byte ∈ String.utf8EncodeChar c, lowerByte byte = id byte :=
        fun byte member =>
          lowerByte_of_not_isAsciiByte (isAsciiByte_utf8EncodeChar isAscii byte member)
      rw [toLower_of_not_isAscii isAscii, List.map_congr_left unchanged, List.map_id]

theorem map_lowerByte_encodeChars (chars : List Char) :
    (encodeChars chars).map lowerByte = encodeChars (chars.map Char.toLower) := by
  rw [encodeChars, encodeChars, List.map_flatMap, List.flatMap_map]
  simp only [map_lowerByte_utf8EncodeChar]

end Utf8

end LanguageDetection.Text

namespace LanguageDetection.Pattern

open LanguageDetection.Text

namespace ByteRange

/-- The same letters in the other case, if a range is one of letters of one case. -/
def otherCase? (range : ByteRange) : Option ByteRange :=
  if isUpperByte range.first && isUpperByte range.last then
    some ⟨range.first + 0x20, range.last + 0x20⟩
  else if isLowerByte range.first && isLowerByte range.last then
    some ⟨range.first - 0x20, range.last - 0x20⟩
  else none

def avoidsLetters (range : ByteRange) : Bool :=
  range.last < 0x41 || (0x5A < range.first && range.last < 0x61) || 0x7A < range.first

theorem swapCase_of_avoidsLetters {range : ByteRange} {byte : UInt8}
    (avoids : range.avoidsLetters = true) (contained : range.contains byte = true) :
    swapCase byte = byte := by
  unfold avoidsLetters at avoids
  unfold contains at contained
  unfold swapCase isUpperByte isLowerByte
  grind

theorem contains_iff {range : ByteRange} {byte : UInt8} :
    range.contains byte = true ↔
      range.first.toNat ≤ byte.toNat ∧ byte.toNat ≤ range.last.toNat := by
  simp [contains, UInt8.le_iff_toNat_le]

theorem contains_swapCase {range other : ByteRange} {byte : UInt8}
    (isOther : range.otherCase? = some other) (contained : range.contains byte = true) :
    other.contains (swapCase byte) = true := by
  rw [contains_iff] at contained ⊢
  unfold otherCase? at isOther
  split at isOther
  · rename_i upper
    obtain rfl := Option.some.inj isOther
    rw [Bool.and_eq_true, isUpperByte_iff, isUpperByte_iff] at upper
    have isUpper : isUpperByte byte = true := isUpperByte_iff.mpr (by omega)
    rw [swapCase, if_pos isUpper]
    simp only [UInt8.toNat_add, UInt8.reduceToNat]
    omega
  · split at isOther
    · rename_i lower
      obtain rfl := Option.some.inj isOther
      rw [Bool.and_eq_true, isLowerByte_iff, isLowerByte_iff] at lower
      have notUpper : ¬ isUpperByte byte = true := by
        rw [isUpperByte_iff]
        omega
      have isLower : isLowerByte byte = true := isLowerByte_iff.mpr (by omega)
      rw [swapCase, if_neg notUpper, if_pos isLower]
      simp only [UInt8.toNat_sub, UInt8.reduceToNat]
      omega
    · contradiction

end ByteRange

namespace ByteSet

/-- Whether each range of letters stands in a set in both cases. -/
def ignoresCase (set : ByteSet) : Bool :=
  set.all fun range => range.avoidsLetters || range.otherCase?.any set.elem

theorem contains_swapCase {set : ByteSet} (ignores : set.ignoresCase = true) {byte : UInt8}
    (contained : set.contains byte = true) : set.contains (swapCase byte) = true := by
  obtain ⟨range, member, inRange⟩ := List.any_eq_true.mp contained
  cases Bool.or_eq_true_iff.mp (List.all_eq_true.mp ignores range member) with
  | inl avoids => rwa [range.swapCase_of_avoidsLetters avoids inRange]
  | inr paired =>
      obtain ⟨other, isOther, otherMember⟩ := (Option.any_eq_true _ _).mp paired
      exact List.any_eq_true.mpr
        ⟨other, List.elem_iff.mp otherMember, range.contains_swapCase isOther inRange⟩

theorem contains_lowerByte {set : ByteSet} (ignores : set.ignoresCase = true) (byte : UInt8) :
    set.contains (lowerByte byte) = set.contains byte := by
  unfold lowerByte
  split
  · rename_i isUpper
    have swapped : byte + 0x20 = swapCase byte := by rw [swapCase, if_pos isUpper]
    rw [swapped, Bool.eq_iff_iff]
    refine ⟨fun contained => ?_, contains_swapCase ignores⟩
    rw [← swapCase_swapCase byte]
    exact contains_swapCase ignores contained
  · rfl

end ByteSet

def Regex.ignoresCase : Regex → Bool
  | .byte set => set.ignoresCase
  | .cat left right => left.ignoresCase && right.ignoresCase
  | .alt left right => left.ignoresCase && right.ignoresCase
  | .repeated body _ _ => body.ignoresCase
  | _ => true

theorem isWordByte_lowerByte (byte : UInt8) : isWordByte (lowerByte byte) = isWordByte byte := by
  have checked : ∀ n < 256, isWordByte (lowerByte (UInt8.ofNat n)) = isWordByte (UInt8.ofNat n) := by
    decide +kernel
  simpa using checked byte.toNat byte.toNat_lt

theorem isWordSide_map_lowerByte (bytes : List UInt8) :
    isWordSide (bytes.map lowerByte) = isWordSide bytes := by
  cases bytes with
  | nil => rfl
  | cons byte rest => exact isWordByte_lowerByte byte

theorem exists_append_map_iff {α β : Type} {f : α → β} {word : List α}
    {p : List β → List β → Prop} :
    (∃ first rest, word.map f = first ++ rest ∧ p first rest) ↔
      ∃ first rest, word = first ++ rest ∧ p (first.map f) (rest.map f) := by
  constructor
  · rintro ⟨_, _, split, holds⟩
    obtain ⟨first, rest, rfl, rfl, rfl⟩ := List.map_eq_append_iff.mp split
    exact ⟨first, rest, rfl, holds⟩
  · rintro ⟨first, rest, rfl, holds⟩
    exact ⟨first.map f, rest.map f, List.map_append, holds⟩

namespace Regex

variable {r : Regex} {before word after bytes : List UInt8}

theorem copies_map_iff {holds : List UInt8 → List UInt8 → List UInt8 → Prop} {f : UInt8 → UInt8}
    (same : ∀ before word after,
      holds (before.map f) (word.map f) (after.map f) ↔ holds before word after) {n : Nat} :
    Copies holds n (before.map f) (word.map f) (after.map f) ↔ Copies holds n before word after := by
  induction n generalizing before word with
  | zero => exact List.map_eq_nil_iff
  | succ n ih =>
      simp only [Copies, exists_append_map_iff, ← List.map_append, ← List.map_reverse, same, ih]

theorem matches_map_lowerByte_iff (ascii : r.isAscii = true) (ignores : r.ignoresCase = true) :
    r.Matches (before.map lowerByte) (word.map lowerByte) (after.map lowerByte) ↔
      r.Matches before word after := by
  induction r generalizing before word after with
  | empty => exact List.map_eq_nil_iff
  | byte set =>
      have same := ByteSet.contains_lowerByte ignores
      simp only [Matches, List.map_eq_singleton_iff]
      constructor
      · rintro ⟨_, contained, byte, rfl, rfl⟩
        exact ⟨byte, (same byte).symm.trans contained, rfl⟩
      · rintro ⟨byte, contained, rfl⟩
        exact ⟨lowerByte byte, (same byte).trans contained, byte, rfl, rfl⟩
  | anchor a =>
      cases a with
      | word test alphabet =>
          cases alphabet with
          | ascii =>
              rw [Matches, Matches, List.map_eq_nil_iff, holds_word_congr
                (isWordSide_map_lowerByte before) (isWordSide_map_lowerByte after)]
          | unicode => contradiction
      | _ => contradiction
  | cat left right ihLeft ihRight =>
      obtain ⟨leftAscii, rightAscii⟩ := Bool.and_eq_true_iff.mp ascii
      obtain ⟨leftIgnores, rightIgnores⟩ := Bool.and_eq_true_iff.mp ignores
      simp only [Matches, exists_append_map_iff, ← List.map_append, ← List.map_reverse,
        ihLeft leftAscii leftIgnores, ihRight rightAscii rightIgnores]
  | alt left right ihLeft ihRight =>
      obtain ⟨leftAscii, rightAscii⟩ := Bool.and_eq_true_iff.mp ascii
      obtain ⟨leftIgnores, rightIgnores⟩ := Bool.and_eq_true_iff.mp ignores
      exact or_congr (ihLeft leftAscii leftIgnores) (ihRight rightAscii rightIgnores)
  | repeated body least most ih =>
      refine exists_congr fun n => and_congr_right fun _ => and_congr_right fun _ => ?_
      exact copies_map_iff fun _ _ _ => ih ascii ignores

theorem occursIn_map_lowerByte_iff (ascii : r.isAscii = true) (ignores : r.ignoresCase = true) :
    r.OccursIn (bytes.map lowerByte) ↔ r.OccursIn bytes := by
  constructor
  · rintro ⟨_, _, _, split, isMatch⟩
    obtain ⟨left, after, rfl, splitLeft, rfl⟩ := List.map_eq_append_iff.mp split
    obtain ⟨before, word, rfl, rfl, rfl⟩ := List.map_eq_append_iff.mp splitLeft
    rw [← List.map_reverse, matches_map_lowerByte_iff ascii ignores] at isMatch
    exact ⟨before, word, after, rfl, isMatch⟩
  · rintro ⟨before, word, after, rfl, isMatch⟩
    refine ⟨before.map lowerByte, word.map lowerByte, after.map lowerByte, by simp, ?_⟩
    rwa [← List.map_reverse, matches_map_lowerByte_iff ascii ignores]

end Regex

theorem Searcher.search_encode_sameLetters {r : Regex} (confined : r.isConfined = true)
    (ignores : r.ignoresCase = true) {s t : String} (same : SameLetters s t) :
    (ofRegex r).search (Utf8.encode s) = (ofRegex r).search (Utf8.encode t) := by
  obtain ⟨proper, ascii, -⟩ := Regex.isConfined_iff.mp confined
  have lowered : ∀ text : String, r.OccursIn (Utf8.encode text) ↔
      r.OccursIn (Utf8.encodeChars (text.toList.map Char.toLower)) := by
    intro text
    rw [Utf8.encode_eq, ← Utf8.map_lowerByte_encodeChars,
      Regex.occursIn_map_lowerByte_iff ascii ignores]
  rw [Bool.eq_iff_iff, search_iff proper, search_iff proper, lowered s, lowered t,
    same.map_toLower_eq]

end LanguageDetection.Pattern
