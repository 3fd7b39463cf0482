import LanguageDetection.Document
import LanguageDetection.Proofs.Decimal.Shortest

/-!
Numerals: numbers with an optional point and an optional exponent, read as what they stand for. What
is written of a double reads as a number that rounds to it.
-/

namespace LanguageDetection.Decimal

def takeDigits (chars : List Char) : List Char × List Char := chars.span Char.isDigit

def readSign : List Char → Bool × List Char
  | '-' :: rest => (true, rest)
  | chars => (false, chars)

/-- Only a lone zero may stand in front. -/
def readWhole? (chars : List Char) : Option (List Char × List Char) :=
  match takeDigits chars with
  | ([], _) => none
  | ('0' :: _ :: _, _) => none
  | (digits, rest) => some (digits, rest)

def readPlaces? : List Char → Option (List Char × List Char)
  | '.' :: rest => match takeDigits rest with
      | ([], _) => none
      | (digits, rest) => some (digits, rest)
  | chars => some ([], chars)

def readScale? : List Char → Option (ℤ × List Char)
  | mark :: rest =>
      if mark == 'e' || mark == 'E' then
        let (isNegative, rest) := readSign rest
        match takeDigits rest with
        | ([], _) => none
        | (digits, rest) =>
            some ((if isNegative then -1 else 1) * (Nat.ofDigitChars 10 digits 0 : ℤ), rest)
      else some (0, mark :: rest)
  | [] => some (0, [])

def readNumeral? (chars : List Char) : Option (ℚ × List Char) := do
  let (isNegative, rest) := readSign chars
  let (whole, rest) ← readWhole? rest
  let (places, rest) ← readPlaces? rest
  let (scale, rest) ← readScale? rest
  let value : ℚ := Nat.ofDigitChars 10 (whole ++ places) 0 * 10 ^ (scale - places.length)
  return (if isNegative then -value else value, rest)

/-- Whether what follows a numeral cannot be taken for a part of it. -/
def EndsNumeral (rest : List Char) : Prop :=
  ∀ c ∈ rest.head?, c.isDigit = false ∧ c ≠ '.' ∧ c ≠ 'e' ∧ c ≠ 'E'

/-- Whether a text reads as a number, whatever follows it. -/
def IsNumeral (chars : List Char) (q : ℚ) : Prop :=
  ∀ rest, EndsNumeral rest → readNumeral? (chars ++ rest) = some (q, rest)

theorem takeDigits_append {digits rest : List Char} (areDigits : ∀ c ∈ digits, c.isDigit = true)
    (ends : ∀ c ∈ rest.head?, c.isDigit = false) : takeDigits (digits ++ rest) = (digits, rest) := by
  have stops : rest.takeWhile Char.isDigit = [] ∧ rest.dropWhile Char.isDigit = rest := by
    cases rest with
    | nil => exact ⟨rfl, rfl⟩
    | cons c rest =>
        have notDigit := ends c rfl
        rw [List.takeWhile_cons, List.dropWhile_cons, notDigit]
        exact ⟨rfl, rfl⟩
  rw [takeDigits, List.span_eq_takeWhile_dropWhile, List.takeWhile_append_of_pos areDigits,
    List.dropWhile_append_of_pos areDigits, stops.1, stops.2, List.append_nil]

structure IsWhole (digits : List Char) : Prop where
  areDigits : ∀ c ∈ digits, c.isDigit = true
  nonempty : digits ≠ []
  leading : digits = ['0'] ∨ digits.head? ≠ some '0'

theorem readWhole?_append {digits rest : List Char} (whole : IsWhole digits)
    (ends : ∀ c ∈ rest.head?, c.isDigit = false) :
    readWhole? (digits ++ rest) = some (digits, rest) := by
  rw [readWhole?, takeDigits_append whole.areDigits ends]
  rcases whole.leading with rfl | notZero
  · rfl
  · cases digits with
    | nil => exact absurd rfl whole.nonempty
    | cons d others =>
        split
        · rename_i same
          exact absurd (congrArg Prod.fst same) (List.cons_ne_nil d others)
        · rename_i same
          injection same with same
          injection same with same
          exact absurd (congrArg some same) notZero
        · rename_i same
          obtain ⟨rfl, rfl⟩ := Prod.mk.inj same
          rfl

def placesChars (places : List Char) : List Char := if places = [] then [] else '.' :: places

theorem readPlaces?_append {places rest : List Char} (areDigits : ∀ c ∈ places, c.isDigit = true)
    (ends : ∀ c ∈ rest.head?, c.isDigit = false ∧ c ≠ '.') :
    readPlaces? (placesChars places ++ rest) = some (places, rest) := by
  unfold placesChars
  split
  · rename_i none
    subst none
    cases rest with
    | nil => rfl
    | cons c rest =>
        have notPoint := (ends c rfl).2
        rw [List.nil_append, readPlaces?]
        intro rest' isPoint
        exact notPoint (List.cons.inj isPoint).1
  · rename_i some
    have read := takeDigits_append areDigits fun c first => (ends c first).1
    simp only [List.cons_append, readPlaces?, read]

theorem readScale?_of_ends {rest : List Char} (ends : EndsNumeral rest) :
    readScale? rest = some (0, rest) := by
  cases rest with
  | nil => rfl
  | cons c rest =>
      obtain ⟨-, -, notLower, notUpper⟩ := ends c rfl
      rw [readScale?, beq_false_of_ne notLower, beq_false_of_ne notUpper]
      rfl

theorem isDigit_of_mem_toDigits {n : ℕ} {c : Char} (member : c ∈ Nat.toDigits 10 n) :
    c.isDigit = true :=
  Nat.isDigit_of_mem_toDigits (by decide) (by decide) member

theorem head?_toDigits {n : ℕ} (positive : 0 < n) : (Nat.toDigits 10 n).head? ≠ some '0' := by
  induction n using Nat.strong_induction_on with
  | h n ih =>
      rcases Nat.lt_or_ge n 10 with digit | longer
      · rw [Nat.toDigits_of_lt_base digit]
        interval_cases n <;> decide
      · have front : 0 < n / 10 := Nat.div_pos longer (by decide)
        have last : n % 10 < 10 := Nat.mod_lt n (by decide)
        rw [← Nat.div_add_mod n 10, ← Nat.toDigits_append_toDigits (by decide) front last,
          List.head?_append_of_ne_nil _ Nat.toDigits_ne_nil]
        exact ih (n / 10) (Nat.div_lt_self positive (by decide)) front

theorem isWhole_toDigits (n : ℕ) : IsWhole (Nat.toDigits 10 n) where
  areDigits _ := isDigit_of_mem_toDigits
  nonempty := Nat.toDigits_ne_nil
  leading := by
    rcases Nat.eq_zero_or_pos n with rfl | positive
    · exact Or.inl (Nat.toDigits_zero 10)
    · exact Or.inr (head?_toDigits positive)

theorem readSign_append {digits : List Char} (whole : IsWhole digits) (isNegative : Bool)
    (rest : List Char) :
    readSign ((if isNegative then ['-'] else []) ++ (digits ++ rest)) =
      (isNegative, digits ++ rest) := by
  cases isNegative with
  | true => rfl
  | false =>
      cases isDigits : digits with
      | nil => exact absurd isDigits whole.nonempty
      | cons d others =>
          have isDigit := whole.areDigits d (isDigits ▸ List.mem_cons_self)
          rw [if_neg Bool.false_ne_true, List.nil_append, List.cons_append, readSign]
          rintro rest' isSign
          obtain rfl := (List.cons.inj isSign).1
          contradiction

theorem readScale?_mark {digits rest : List Char} (whole : IsWhole digits) (isNegative : Bool)
    (ends : EndsNumeral rest) :
    readScale? ('e' :: ((if isNegative then ['-'] else []) ++ (digits ++ rest))) =
      some ((if isNegative then -1 else 1) * (Nat.ofDigitChars 10 digits 0 : ℤ), rest) := by
  have read : takeDigits (digits ++ rest) = (digits, rest) :=
    takeDigits_append whole.areDigits fun c first => (ends c first).1
  rw [readScale?]
  simp only [beq_self_eq_true, Bool.true_or, if_true, readSign_append whole isNegative rest, read]
  cases digits with
  | nil => exact absurd rfl whole.nonempty
  | cons d others => rfl

theorem toList_toString_negSucc (n : ℕ) :
    (toString (Int.negSucc n)).toList = '-' :: Nat.toDigits 10 (n + 1) := by
  change ("-" ++ toString (n + 1)).toList = _
  rw [Nat.toString_eq_ofList_toDigits, String.toList_append, String.toList_ofList,
    String.toList_ofList]
  rfl

theorem readScale?_append (scale : ℤ) {rest : List Char} (ends : EndsNumeral rest) :
    readScale? ('e' :: (toString scale).toList ++ rest) = some (scale, rest) := by
  cases scale with
  | ofNat n =>
      have text : (toString (Int.ofNat n)).toList = Nat.toDigits 10 n := by
        change (toString n).toList = _
        rw [Nat.toString_eq_ofList_toDigits, String.toList_ofList]
      have read := readScale?_mark (isWhole_toDigits n) false ends
      rw [Nat.ofDigitChars_ten_toDigits] at read
      rw [text, List.cons_append]
      simpa using read
  | negSucc n =>
      have read := readScale?_mark (isWhole_toDigits (n + 1)) true ends
      rw [Nat.ofDigitChars_ten_toDigits] at read
      rw [toList_toString_negSucc, List.cons_append, List.cons_append]
      simpa [Int.negSucc_eq] using read

/-- A sign, digits, and perhaps a point with digits and an exponent after them. -/
theorem isNumeral_of_parts (isNegative : Bool) {whole places : List Char} (isWhole : IsWhole whole)
    (areDigits : ∀ c ∈ places, c.isDigit = true) (scale : Option ℤ) :
    IsNumeral
      ((if isNegative then ['-'] else []) ++ whole ++ placesChars places
        ++ (scale.elim [] fun scale => 'e' :: (toString scale).toList))
      ((if isNegative then -1 else 1)
        * (Nat.ofDigitChars 10 (whole ++ places) 0 * 10 ^ (scale.getD 0 - places.length))) := by
  intro rest ends
  rw [List.append_assoc, List.append_assoc, List.append_assoc]
  obtain ⟨tail, isTail⟩ : ∃ tail,
      scale.elim [] (fun scale => 'e' :: (toString scale).toList) ++ rest = tail := ⟨_, rfl⟩
  have tailEnds : ∀ c ∈ tail.head?, c.isDigit = false ∧ c ≠ '.' := by
    rw [← isTail]
    cases scale with
    | none => exact fun c first => ⟨(ends c first).1, (ends c first).2.1⟩
    | some scale =>
        rintro c ⟨⟩
        decide
  have tailRead : readScale? tail = some (scale.getD 0, rest) := by
    rw [← isTail]
    cases scale with
    | none => exact readScale?_of_ends ends
    | some scale => exact readScale?_append scale ends
  have placesRead : readPlaces? (placesChars places ++ tail) = some (places, tail) :=
    readPlaces?_append areDigits tailEnds
  have wholeRead : readWhole? (whole ++ (placesChars places ++ tail)) =
      some (whole, placesChars places ++ tail) := by
    apply readWhole?_append isWhole
    unfold placesChars
    split
    · exact fun c first => (tailEnds c first).1
    · rintro c ⟨⟩
      decide
  have signRead := readSign_append isWhole isNegative (placesChars places ++ tail)
  rw [isTail, readNumeral?]
  simp only [signRead, wholeRead, placesRead, tailRead, Option.bind_eq_bind, Option.bind_some]
  cases isNegative <;> simp

theorem isNumeral_toString (n : ℕ) : IsNumeral (toString n).toList n := by
  have numeral := isNumeral_of_parts false (isWhole_toDigits n) (List.forall_mem_nil _) none
  rw [Nat.toString_eq_ofList_toDigits, String.toList_ofList]
  simpa [placesChars, Nat.ofDigitChars_ten_toDigits] using numeral

theorem isNumeral_toString_int (n : ℤ) : IsNumeral (toString n).toList n := by
  cases n with
  | ofNat n => exact isNumeral_toString n
  | negSucc n =>
      have numeral := isNumeral_of_parts true (isWhole_toDigits (n + 1)) (List.forall_mem_nil _) none
      rw [toList_toString_negSucc]
      simpa [placesChars, Nat.ofDigitChars_ten_toDigits, Int.negSucc_eq, add_comm] using numeral

theorem IsNumeral.exists_cons {chars : List Char} {q : ℚ} (numeral : IsNumeral chars q) :
    ∃ c rest, chars = c :: rest ∧ (c = '-' ∨ c.isDigit = true) := by
  have read := numeral [] fun c first => nomatch first
  rw [List.append_nil] at read
  cases chars with
  | nil => exact absurd read (by simp [readNumeral?, readSign, readWhole?, takeDigits])
  | cons c rest =>
      refine ⟨c, rest, rfl, ?_⟩
      by_contra other
      obtain ⟨notSign, notDigit⟩ := not_or.mp other
      have unsigned : readSign (c :: rest) = (false, c :: rest) := by
        rw [readSign]
        intro rest' isSign
        exact notSign (List.cons.inj isSign).1
      have none : readWhole? (c :: rest) = none := by
        simp [readWhole?, takeDigits, List.span_eq_takeWhile_dropWhile, notDigit]
      simp [readNumeral?, unsigned, none] at read

/-- Numerals without a sign, by their parts. -/
inductive IsUnsigned : List Char → ℚ → Prop
  | ofParts {whole places : List Char} (isWhole : IsWhole whole)
      (areDigits : ∀ c ∈ places, c.isDigit = true) (scale : Option ℤ) :
      IsUnsigned
        (whole ++ placesChars places ++ scale.elim [] fun scale => 'e' :: (toString scale).toList)
        (Nat.ofDigitChars 10 (whole ++ places) 0 * 10 ^ (scale.getD 0 - places.length))

theorem IsUnsigned.isNumeral {chars : List Char} {q : ℚ} (unsigned : IsUnsigned chars q)
    (isNegative : Bool) :
    IsNumeral ((if isNegative then ['-'] else []) ++ chars) ((if isNegative then -1 else 1) * q) := by
  cases unsigned with
  | ofParts isWhole areDigits scale =>
      simpa only [List.append_assoc] using isNumeral_of_parts isNegative isWhole areDigits scale

theorem isUnsigned_of_parts {whole places : List Char} {q : ℚ} (isWhole : IsWhole whole)
    (areDigits : ∀ c ∈ places, c.isDigit = true)
    (value : q = Nat.ofDigitChars 10 (whole ++ places) 0 * 10 ^ (-places.length : ℤ)) :
    IsUnsigned (whole ++ placesChars places) q := by
  have unsigned := IsUnsigned.ofParts isWhole areDigits none
  rwa [Option.elim_none, List.append_nil, Option.getD_none, zero_sub, ← value] at unsigned

section

variable {n : ℕ}

theorem isWhole_append {digits : List Char} (positive : 0 < n)
    (areDigits : ∀ c ∈ digits, c.isDigit = true) : IsWhole (Nat.toDigits 10 n ++ digits) where
  areDigits c member := (List.mem_append.mp member).elim isDigit_of_mem_toDigits (areDigits c)
  nonempty := List.append_ne_nil_of_left_ne_nil Nat.toDigits_ne_nil digits
  leading := Or.inr (by
    rw [List.head?_append_of_ne_nil _ Nat.toDigits_ne_nil]
    exact head?_toDigits positive)

theorem isWhole_take (positive : 0 < n) {count : ℕ} (some : 0 < count) :
    IsWhole ((Nat.toDigits 10 n).take count) where
  areDigits c member := isDigit_of_mem_toDigits (List.mem_of_mem_take member)
  nonempty := by
    rw [Ne, List.take_eq_nil_iff, not_or]
    exact ⟨some.ne', Nat.toDigits_ne_nil⟩
  leading := Or.inr (by
    rw [List.head?_take, if_neg some.ne']
    exact head?_toDigits positive)

theorem areDigits_zeros (count : ℕ) : ∀ c ∈ List.replicate count '0', c.isDigit = true := by
  intro c member
  rw [List.eq_of_mem_replicate member]
  rfl

theorem isUnsigned_zerosBefore (n count : ℕ) :
    IsUnsigned ('0' :: '.' :: (List.replicate count '0' ++ Nat.toDigits 10 n))
      (n * 10 ^ (-(count + (Nat.toDigits 10 n).length) : ℤ)) := by
  have nonempty : List.replicate count '0' ++ Nat.toDigits 10 n ≠ [] :=
    List.append_ne_nil_of_right_ne_nil _ Nat.toDigits_ne_nil
  have unsigned : IsUnsigned
      (Nat.toDigits 10 0 ++ placesChars (List.replicate count '0' ++ Nat.toDigits 10 n))
      (n * 10 ^ (-(count + (Nat.toDigits 10 n).length) : ℤ)) := by
    refine isUnsigned_of_parts (isWhole_toDigits 0) (fun c member => ?_) ?_
    · exact (List.mem_append.mp member).elim (areDigits_zeros count c) isDigit_of_mem_toDigits
    · rw [List.length_append, List.length_replicate, Nat.cast_add, Nat.toDigits_zero,
        Nat.ofDigitChars_append, Nat.ofDigitChars_append, Nat.ofDigitChars_replicate_zero]
      exact congrArg (fun m : ℕ => (m : ℚ) * 10 ^ (-(count + (Nat.toDigits 10 n).length) : ℤ))
        (Nat.ofDigitChars_ten_toDigits (n := n)).symm
  rwa [placesChars, if_neg nonempty] at unsigned

theorem isUnsigned_zerosAfter (positive : 0 < n) (count : ℕ) :
    IsUnsigned (Nat.toDigits 10 n ++ List.replicate count '0' ++ ['.', '0'])
      (n * 10 ^ (count : ℤ)) := by
  have places : ['.', '0'] = placesChars ['0'] := rfl
  rw [places]
  apply isUnsigned_of_parts (isWhole_append positive (areDigits_zeros count)) (areDigits_zeros 1)
  rw [Nat.ofDigitChars_append, Nat.ofDigitChars_append, Nat.ofDigitChars_ten_toDigits,
    Nat.ofDigitChars_replicate_zero, Nat.ofDigitChars_replicate_zero]
  push_cast
  norm_num
  ring

theorem isUnsigned_pointInside (positive : 0 < n) {place : ℕ} (notFirst : 0 < place)
    (notLast : place < (Nat.toDigits 10 n).length) :
    IsUnsigned ((Nat.toDigits 10 n).take place ++ '.' :: (Nat.toDigits 10 n).drop place)
      (n * 10 ^ (place - (Nat.toDigits 10 n).length : ℤ)) := by
  have nonempty : (Nat.toDigits 10 n).drop place ≠ [] := by
    rw [Ne, List.drop_eq_nil_iff]
    exact notLast.not_ge
  have length : (-((Nat.toDigits 10 n).drop place).length : ℤ) =
      place - (Nat.toDigits 10 n).length := by
    rw [List.length_drop]
    omega
  have unsigned : IsUnsigned
      ((Nat.toDigits 10 n).take place ++ placesChars ((Nat.toDigits 10 n).drop place))
      (n * 10 ^ (place - (Nat.toDigits 10 n).length : ℤ)) := by
    apply isUnsigned_of_parts (isWhole_take positive notFirst)
    · exact fun c member => isDigit_of_mem_toDigits (List.mem_of_mem_drop member)
    · rw [length, List.take_append_drop, Nat.ofDigitChars_ten_toDigits]
  rwa [placesChars, if_neg nonempty] at unsigned

/-- Digits with their point at its place, which may lie before or after all of them. -/
theorem isUnsigned_positionalText (positive : 0 < n) (exponent : ℤ) :
    IsUnsigned (Document.floatStyle.positionalText (toString n)
      (exponent + (toString n).length)).toList (n * 10 ^ exponent) := by
  rw [Nat.toString_eq_ofList_toDigits, String.length_ofList]
  unfold Style.positionalText
  split
  case isTrue before =>
    obtain ⟨count, rfl⟩ : ∃ count : ℕ, exponent = -(count + (Nat.toDigits 10 n).length : ℤ) :=
      ⟨(-(exponent + (Nat.toDigits 10 n).length)).toNat, by omega⟩
    have far : (-(-(count + (Nat.toDigits 10 n).length : ℤ) + (Nat.toDigits 10 n).length)).toNat =
        count := by omega
    have point : "0." = String.ofList ['0', '.'] := rfl
    rw [far, zeros, point]
    simpa only [String.toList_append, String.toList_ofList, List.append_assoc, List.cons_append,
      List.nil_append] using isUnsigned_zerosBefore n count
  case isFalse after =>
    split
    case isTrue short =>
      rw [String.length_ofList] at short
      obtain ⟨count, rfl⟩ : ∃ count : ℕ, exponent = count := ⟨exponent.toNat, by omega⟩
      have far : ((count : ℤ) + (Nat.toDigits 10 n).length).toNat - (Nat.toDigits 10 n).length =
          count := by omega
      have ending : (if Document.floatStyle.pointZero then ".0" else "") =
          String.ofList ['.', '0'] := rfl
      rw [String.length_ofList, far, ending, zeros]
      simpa only [String.toList_append, String.toList_ofList] using
        isUnsigned_zerosAfter positive count
    case isFalse long =>
      rw [String.length_ofList] at long
      obtain ⟨place, rfl⟩ : ∃ place : ℕ, exponent = place - (Nat.toDigits 10 n).length :=
        ⟨(exponent + (Nat.toDigits 10 n).length).toNat, by omega⟩
      rw [sub_add_cancel] at after
      rw [sub_add_cancel, Int.toNat_natCast] at long ⊢
      have point : "." = String.ofList ['.'] := rfl
      rw [point]
      simpa only [String.toList_append, String.toList_ofList, List.append_assoc, List.cons_append,
        List.nil_append] using isUnsigned_pointInside positive (by omega) (not_le.mp long)

theorem isUnsigned_exponentText (n : ℕ) (exponent : ℤ) :
    IsUnsigned (exponentText (toString n) (exponent + (toString n).length - 1)).toList
      (n * 10 ^ exponent) := by
  have value := Nat.ofDigitChars_ten_toDigits (n := n)
  have digit {d : Char} {others : List Char} (isDigits : Nat.toDigits 10 n = d :: others) :
      IsWhole [d] ∧ ∀ c ∈ others, c.isDigit = true := by
    have areDigits : ∀ c ∈ d :: others, c.isDigit = true :=
      fun c member => isDigit_of_mem_toDigits (isDigits ▸ member)
    refine ⟨⟨?_, List.cons_ne_nil d [], ?_⟩, fun c member => areDigits c (.tail d member)⟩
    · exact List.forall_mem_singleton.mpr (areDigits d List.mem_cons_self)
    · by_cases zero : d = '0'
      · exact Or.inl (congrArg (fun c => [c]) zero)
      · exact Or.inr fun same => zero (Option.some.inj same)
  rw [Nat.toString_eq_ofList_toDigits, String.length_ofList, exponentText, String.toList_ofList]
  cases isDigits : Nat.toDigits 10 n with
  | nil => exact absurd isDigits Nat.toDigits_ne_nil
  | cons d others =>
      rw [isDigits] at value
      obtain ⟨isWhole, areDigits⟩ := digit isDigits
      have unsigned := IsUnsigned.ofParts isWhole areDigits (some (exponent + others.length))
      have places : exponent + (d :: others).length - 1 = exponent + others.length := by
        rw [List.length_cons]
        push_cast
        ring
      have whole : Nat.ofDigitChars 10 ([d] ++ others) 0 = n := value
      rw [Option.getD_some, Option.elim_some, add_sub_cancel_right, whole] at unsigned
      have mark : "e" = String.ofList ['e'] := rfl
      rw [places, mark]
      cases others with
      | nil =>
          have fraction : placesChars [] = [] := rfl
          rw [fraction] at unsigned
          simpa only [String.toList_append, String.toList_ofList, List.append_assoc,
            List.cons_append, List.nil_append] using unsigned
      | cons d' others =>
          have fraction : placesChars (d' :: others) = '.' :: d' :: others := rfl
          rw [fraction] at unsigned
          simpa only [String.toList_append, String.toList_ofList, List.append_assoc,
            List.cons_append, List.nil_append] using unsigned

def writtenSize (mantissa : ℕ) (exponent : ℤ) : ℚ :=
  if mantissa = 0 then 0 else (shortest mantissa exponent).value

def writtenValue (isNegative : Bool) (mantissa : ℕ) (exponent : ℤ) : ℚ :=
  (if isNegative then -1 else 1) * writtenSize mantissa exponent

theorem IsDouble.shortest_pos {mantissa : ℕ} {exponent : ℤ} (double : IsDouble mantissa exponent)
    (positive : 0 < mantissa) : 0 < (shortest mantissa exponent).value := by
  have above := (holds_shortest double positive).between.1
  have large : (1 : ℚ) ≤ mantissa := by exact_mod_cast positive
  have unit : (0 : ℚ) < 2 ^ exponent := by positivity
  have gap : gapBelow mantissa exponent ≤ 2 ^ exponent := IsDouble.gapBelow_le
  rw [low_ofFinite positive] at above
  nlinarith

theorem isUnsigned_writeSize {mantissa : ℕ} {exponent : ℤ} (double : IsDouble mantissa exponent) :
    IsUnsigned (Document.floatStyle.writeSize mantissa exponent).toList
      (writtenSize mantissa exponent) := by
  unfold Style.writeSize writtenSize
  rcases Nat.eq_zero_or_pos mantissa with rfl | positive
  · have zero : IsUnsigned (Nat.toDigits 10 0 ++ placesChars ['0']) 0 := by
      refine isUnsigned_of_parts (isWhole_toDigits 0) (List.forall_mem_singleton.mpr rfl) ?_
      norm_num [Nat.toDigits_zero, Nat.ofDigitChars_cons]
    rw [if_pos (beq_self_eq_true 0), if_pos rfl]
    exact zero
  · have size := double.shortest_pos positive
    rw [if_neg (by simpa using positive.ne'), if_neg positive.ne']
    generalize shortest mantissa exponent = s at size ⊢
    rw [Scaled.value] at size ⊢
    have digits : 0 < s.digits := by
      rw [Nat.pos_iff_ne_zero]
      intro none
      rw [none, Nat.cast_zero, zero_mul] at size
      exact lt_irrefl 0 size
    have range : Document.floatStyle.positional = some (-4, 16) := rfl
    simp only [range]
    split
    · exact isUnsigned_positionalText digits s.exponent
    · exact isUnsigned_exponentText s.digits s.exponent

def written? (x : Float) : Option ℚ :=
  match Parts.ofBits x.toBits with
  | .finite isNegative mantissa exponent => some (writtenValue isNegative mantissa exponent)
  | _ => none

theorem written?_eq_some_iff {x : Float} {q : ℚ} :
    written? x = some q ↔ ∃ isNegative mantissa exponent,
      Parts.ofBits x.toBits = .finite isNegative mantissa exponent ∧
        writtenValue isNegative mantissa exponent = q := by
  unfold written?
  cases Parts.ofBits x.toBits <;> simp

theorem floatText_of_written?_eq_none {x : Float} (unwritten : written? x = none) :
    Document.floatText x = "null" := by
  unfold written? at unwritten
  unfold Document.floatText
  cases form : Parts.ofBits x.toBits with
  | finite isNegative mantissa exponent =>
    rw [form] at unwritten
    contradiction
  | _ => rfl

theorem isNumeral_floatText {x : Float} {q : ℚ} (written : written? x = some q) :
    IsNumeral (Document.floatText x).toList q := by
  obtain ⟨isNegative, mantissa, exponent, finite, rfl⟩ := written?_eq_some_iff.mp written
  have numeral := (isUnsigned_writeSize (isDouble_of_ofBits finite)).isNumeral isNegative
  rw [Document.floatText, finite]
  simp only
  rw [Style.write, finite, String.toList_append]
  cases isNegative <;> exact numeral

end

/-- The number that a double stands for, if it is finite. -/
def Parts.value? : Parts → Option ℚ
  | .finite isNegative mantissa exponent =>
      some ((if isNegative then -1 else 1) * (mantissa * 2 ^ exponent))
  | _ => none

/-- Of all doubles this one is nearest to a number; if others are as near, its significand is even. -/
def RoundsTo (q : ℚ) (x : Float) : Prop :=
  ∃ isNegative mantissa exponent value,
    Parts.ofBits x.toBits = .finite isNegative mantissa exponent ∧
    (Parts.ofBits x.toBits).value? = some value ∧
    ∀ (y : Float) (other : ℚ), (Parts.ofBits y.toBits).value? = some other →
      |q - value| ≤ |q - other| ∧ (|q - value| = |q - other| → other = value ∨ mantissa % 2 = 0)

theorem nearest_writtenSize {mantissa mantissa' : ℕ} {exponent exponent' : ℤ}
    (double : IsDouble mantissa exponent) (double' : IsDouble mantissa' exponent') :
    |writtenSize mantissa exponent - mantissa * 2 ^ exponent| ≤
        |writtenSize mantissa exponent - mantissa' * 2 ^ exponent'| ∧
      (|writtenSize mantissa exponent - mantissa * 2 ^ exponent| =
          |writtenSize mantissa exponent - mantissa' * 2 ^ exponent'| →
        (mantissa' * 2 ^ exponent' : ℚ) = mantissa * 2 ^ exponent ∨ mantissa % 2 = 0) := by
  rcases Nat.eq_zero_or_pos mantissa with rfl | positive
  · refine ⟨?_, fun _ => Or.inr rfl⟩
    rw [writtenSize, if_pos rfl, Nat.cast_zero, zero_mul, sub_zero, abs_zero]
    exact abs_nonneg _
  · rw [writtenSize, if_neg positive.ne']
    refine double.nearest (holds_shortest double positive) (low_ofFinite positive) high_ofFinite ?_
      double'
    exact fun closed => beq_iff_eq.mp closed

theorem writtenSize_nonneg {mantissa : ℕ} {exponent : ℤ} (double : IsDouble mantissa exponent) :
    0 ≤ writtenSize mantissa exponent := by
  unfold writtenSize
  split
  · exact le_rfl
  · rename_i some
    exact (double.shortest_pos (Nat.pos_of_ne_zero some)).le

theorem abs_signed_sub (isNegative : Bool) (q r : ℚ) :
    |(if isNegative then -1 else 1) * q - (if isNegative then -1 else 1) * r| = |q - r| := by
  cases isNegative with
  | true =>
      rw [if_pos rfl, neg_one_mul, neg_one_mul, neg_sub_neg]
      exact abs_sub_comm r q
  | false => rw [if_neg Bool.false_ne_true, one_mul, one_mul]

/-- What is written of a double rounds to it. -/
theorem roundsTo_of_written? {x : Float} {q : ℚ} (written : written? x = some q) :
    RoundsTo q x := by
  obtain ⟨isNegative, mantissa, exponent, finite, rfl⟩ := written?_eq_some_iff.mp written
  have double := isDouble_of_ofBits finite
  refine ⟨isNegative, mantissa, exponent, _, finite, by rw [finite]; rfl, ?_⟩
  intro y other known
  cases parts : Parts.ofBits y.toBits with
  | nan => simp [parts, Parts.value?] at known
  | infinite _ => simp [parts, Parts.value?] at known
  | finite isNegative' mantissa' exponent' =>
      rw [parts, Parts.value?, Option.some.injEq] at known
      have double' := isDouble_of_ofBits parts
      have near := nearest_writtenSize double double'
      rw [writtenValue, ← known, abs_signed_sub]
      by_cases alike : isNegative' = isNegative
      · rw [alike, abs_signed_sub]
        exact ⟨near.1, fun tie => (near.2 tie).imp_left (congrArg _)⟩
      · -- A double of the other sign is no nearer than zero is.
        have zero : IsDouble 0 (-1074) := ⟨by decide, le_rfl, Or.inr rfl⟩
        have near0 := nearest_writtenSize double zero
        have size := writtenSize_nonneg double
        have other' : (0 : ℚ) ≤ mantissa' * 2 ^ exponent' := by positivity
        have opposite : (if isNegative' then -1 else 1) * (mantissa' * 2 ^ exponent' : ℚ) =
            (if isNegative then -1 else 1) * (-(mantissa' * 2 ^ exponent')) := by
          cases isNegative <;> cases isNegative' <;> simp_all
        rw [Nat.cast_zero, zero_mul, sub_zero, abs_of_nonneg size] at near0
        rw [opposite, abs_signed_sub, sub_neg_eq_add, abs_of_nonneg (add_nonneg size other')]
        refine ⟨near0.1.trans (le_add_of_nonneg_right other'), fun tie => ?_⟩
        have none : (mantissa' * 2 ^ exponent' : ℚ) = 0 := by linarith [near0.1]
        rw [none, add_zero] at tie
        rw [none, neg_zero]
        exact (near0.2 tie).imp_left (congrArg _)

end LanguageDetection.Decimal
