import LanguageDetection.Text.Utf8
import Mathlib

/-!
ASCII in texts: the longest runs of ASCII characters, texts that differ outside these runs only, and
the bytes that characters are encoded as.
-/

namespace LanguageDetection.Text

def isAsciiByte (byte : UInt8) : Bool := byte < 0x80

/-- A run of ASCII characters that neither what comes before it nor what comes after it extends. -/
structure IsLongestRun (before run after : List Char) : Prop where
  nonempty : run ≠ []
  ascii : ∀ c ∈ run, c.isAscii = true
  start : ∀ c ∈ before.getLast?, c.isAscii = false
  stop : ∀ c ∈ after.head?, c.isAscii = false

def IsAsciiRun (text run : String) : Prop :=
  ∃ before after, text.toList = before ++ run.toList ++ after ∧ IsLongestRun before run.toList after

structure IsForeign (chars : List Char) : Prop where
  nonempty : chars ≠ []
  foreign : ∀ c ∈ chars, c.isAscii = false

theorem IsForeign.singleton {c : Char} (foreign : c.isAscii = false) : IsForeign [c] :=
  ⟨List.cons_ne_nil c [], List.forall_mem_singleton.mpr foreign⟩

/-- Two texts with the same ASCII characters and something else in the same places between them. -/
inductive Recoded : List Char → List Char → Prop
  | nil : Recoded [] []
  | ascii {s t : List Char} {c : Char} (isAscii : c.isAscii = true) (rest : Recoded s t) :
      Recoded (c :: s) (c :: t)
  | foreign {u v s t : List Char} (replaced : IsForeign u) (put : IsForeign v) (rest : Recoded s t) :
      Recoded (u ++ s) (v ++ t)

theorem Recoded.refl (chars : List Char) : Recoded chars chars := by
  induction chars with
  | nil => exact .nil
  | cons c rest ih =>
      cases isAscii : c.isAscii with
      | true => exact .ascii isAscii ih
      | false => exact .foreign (.singleton isAscii) (.singleton isAscii) ih

theorem IsLongestRun.cons {before run after : List Char} (isRun : IsLongestRun before run after)
    {c : Char} (foreign : c.isAscii = false) (left : List Char) :
    IsLongestRun (left ++ c :: before) run after := by
  refine ⟨isRun.nonempty, isRun.ascii, ?_, isRun.stop⟩
  cases before with
  | nil => simpa using foreign
  | cons first rest =>
      have start := isRun.start
      rw [List.getLast?_append_cons, List.getLast?_cons_cons]
      exact start

namespace Utf8

def encodeChars (chars : List Char) : List UInt8 :=
  chars.flatMap String.utf8EncodeChar

theorem toList_loop_eq (bytes : ByteArray) (i : Nat) (read : List UInt8) :
    ByteArray.toList.loop bytes i read = read.reverse ++ bytes.data.toList.drop i := by
  fun_induction ByteArray.toList.loop bytes i read with
  | case1 i read inside ih =>
      have byteAt : bytes.get! i = bytes.data.toList[i] := getElem!_pos bytes.data i inside
      rw [ih, byteAt, List.drop_eq_getElem_cons inside, List.reverse_cons, List.append_assoc]
      rfl
  | case2 i read outside =>
      rw [List.drop_eq_nil_of_le (Nat.le_of_not_lt outside), List.append_nil]

theorem encode_eq (text : String) : encode text = encodeChars text.toList := by
  have ofChars : text.toUTF8 = text.toList.utf8Encode := by
    rw [← String.toByteArray_ofList, String.ofList_toList]
    rfl
  rw [encode, ByteArray.toList, toList_loop_eq, ofChars, List.utf8Encode,
    List.toList_data_toByteArray]
  rfl

theorem encodeChars_append (left right : List Char) :
    encodeChars (left ++ right) = encodeChars left ++ encodeChars right :=
  List.flatMap_append

theorem isAsciiByte_ofNat_mod_add {low range : Nat} (large : 0x80 ≤ low) (positive : 0 < range)
    (small : range + low ≤ 0x100) (n : Nat) :
    isAsciiByte (UInt8.ofNat (n % range + low)) = false := by
  have less : n % range < range := Nat.mod_lt n positive
  have same : (UInt8.ofNat (n % range + low)).toNat = n % range + low :=
    UInt8.toNat_ofNat_of_lt' ((Nat.add_lt_add_right less low).trans_le small)
  apply decide_eq_false
  rw [UInt8.lt_iff_toNat_lt, same]
  exact Nat.not_lt.mpr (large.trans (Nat.le_add_left low _))

theorem utf8EncodeChar_of_isAscii {c : Char} (isAscii : c.isAscii = true) :
    String.utf8EncodeChar c = [UInt8.ofNat c.toNat] := by
  have small : c.val.toNat ≤ 127 := Nat.le_of_lt_succ (of_decide_eq_true isAscii)
  unfold String.utf8EncodeChar
  dsimp only
  rw [if_pos small]
  rfl

theorem isAsciiByte_utf8EncodeChar {c : Char} (foreign : c.isAscii = false) :
    ∀ byte ∈ String.utf8EncodeChar c, isAsciiByte byte = false := by
  have large : ¬ c.val.toNat ≤ 127 := fun small =>
    of_decide_eq_false foreign (Nat.lt_succ_of_le small)
  -- Two, three or four bytes, none of which starts below 0x80.
  unfold String.utf8EncodeChar
  dsimp only
  rw [if_neg large]
  split
  · simp (disch := decide) only [List.forall_mem_cons, isAsciiByte_ofNat_mod_add, List.not_mem_nil,
      false_imp_iff, forall_const, and_self]
  · split
    · simp (disch := decide) only [List.forall_mem_cons, isAsciiByte_ofNat_mod_add, List.not_mem_nil,
        false_imp_iff, forall_const, and_self]
    · simp (disch := decide) only [List.forall_mem_cons, isAsciiByte_ofNat_mod_add, List.not_mem_nil,
        false_imp_iff, forall_const, and_self]

theorem isAsciiByte_encodeChars {chars : List Char} (isForeign : IsForeign chars) :
    ∀ byte ∈ encodeChars chars, isAsciiByte byte = false := by
  intro byte member
  obtain ⟨c, isChar, isByte⟩ := List.mem_flatMap.mp member
  exact isAsciiByte_utf8EncodeChar (isForeign.foreign c isChar) byte isByte

theorem encodeChars_ne_nil {chars : List Char} (nonempty : chars ≠ []) : encodeChars chars ≠ [] := by
  obtain ⟨c, rest, rfl⟩ := List.exists_cons_of_ne_nil nonempty
  have bytes : String.utf8EncodeChar c ≠ [] :=
    List.ne_nil_of_length_pos (String.length_utf8EncodeChar c ▸ c.utf8Size_pos)
  exact List.append_ne_nil_of_left_ne_nil bytes (encodeChars rest)

end Utf8

end LanguageDetection.Text
