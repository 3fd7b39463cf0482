import LanguageDetection.Proofs.Text.Ascii

/-!
UTF-8 read back: the decoder writes the characters that were encoded. A character of more than one
byte is its lead followed by digits to base 64.
-/

namespace LanguageDetection.Text.Utf8

/-- The byte inside a character that a digit to base 64 is encoded as. -/
def continuation (digit : Nat) : UInt8 := UInt8.ofNat (digit + 0x80)

theorem toNat_continuation {digit : Nat} (small : digit < 64) :
    (continuation digit).toNat = digit + 0x80 :=
  UInt8.toNat_ofNat_of_lt' (show digit + 0x80 < 256 by omega)

theorem continuation_mem_range {low high : UInt8} {digit : Nat} (small : digit < 64)
    (above : low.toNat ≤ digit + 0x80) (below : digit + 0x80 ≤ high.toNat) :
    (low ≤ continuation digit && continuation digit ≤ high) = true := by
  rw [Bool.and_eq_true, decide_eq_true_eq, decide_eq_true_eq, UInt8.le_iff_toNat_le,
    UInt8.le_iff_toNat_le, toNat_continuation small]
  exact ⟨above, below⟩

theorem addContinuation_eq {digit : Nat} (small : digit < 64) (bits : Nat) :
    addContinuation bits (continuation digit) = bits * 64 + digit := by
  have same := toNat_continuation small
  unfold addContinuation
  omega

theorem decodeFrom_cons (pending : Pending) (written : List Char) (byte : UInt8)
    (rest : List UInt8) :
    decodeFrom pending written (byte :: rest) =
      decodeFrom (pending.feed byte).1 ((pending.feed byte).2.reverse ++ written) rest := rfl

theorem decodeFrom_eq (pending : Pending) (written : List Char) (bytes : List UInt8) :
    decodeFrom pending written bytes = written.reverse ++ decodeFrom pending [] bytes := by
  induction bytes generalizing pending written with
  | nil => rfl
  | cons byte rest ih =>
      rw [decodeFrom_cons, ih, decodeFrom_cons pending [], ih _ (_ ++ []), List.append_nil,
        List.reverse_append, List.append_assoc]

/-- Inside a character, the digits that are still to come complete it. -/
theorem decodeFrom_inside {digit : Nat} {digits : List Nat} {low high : UInt8}
    (small : ∀ d ∈ digit :: digits, d < 64) (above : low.toNat ≤ digit + 0x80)
    (below : digit + 0x80 ≤ high.toNat) (bits : Nat) (written : List Char) (rest : List UInt8) :
    decodeFrom (.inside ⟨(digit :: digits).length, low, high, bits⟩) written
        ((digit :: digits).map continuation ++ rest) =
      decodeFrom .none
        (Char.ofNat ((digit :: digits).foldl (fun bits d => bits * 64 + d) bits) :: written) rest := by
  -- After the first digit any other is allowed, so the range of the next byte is generalised.
  induction digits generalizing digit low high bits with
  | nil =>
      obtain ⟨first, -⟩ := List.forall_mem_cons.mp small
      rw [List.map_singleton, List.singleton_append, decodeFrom, Pending.feed,
        if_pos (continuation_mem_range first above below)]
      simp only [addContinuation_eq first]
      rfl
  | cons next digits ih =>
      obtain ⟨first, others⟩ := List.forall_mem_cons.mp small
      have nextSmall := (List.forall_mem_cons.mp others).1
      rw [List.map_cons, List.cons_append, decodeFrom, Pending.feed,
        if_pos (continuation_mem_range first above below)]
      simp only [addContinuation_eq first]
      have more : (digit :: next :: digits).length ≠ 1 := by simp
      rw [if_neg more]
      refine ih others (Nat.le_add_left _ _) ?_ _
      exact (show next + 0x80 ≤ 0xBF by omega)

/-- What the lead of a character says of the digits that follow it. -/
structure Leads (lead : Lead) (byte : UInt8) (digits : List Nat) : Prop where
  isLead : lead? byte = some lead
  length_eq : lead.following = digits.length
  small : ∀ d ∈ digits, d < 64
  inRange : ∀ d ∈ digits.head?, lead.low.toNat ≤ d + 0x80 ∧ d + 0x80 ≤ lead.high.toNat
  nonempty : digits ≠ []

theorem isAsciiByte_of_lead?_eq_some {byte : UInt8} {lead : Lead} (isLead : lead? byte = some lead) :
    isAsciiByte byte = false := by
  have checked : ∀ n < 0x80, lead? (UInt8.ofNat n) = none := by decide
  cases ascii : isAsciiByte byte with
  | false => rfl
  | true =>
      have none := checked byte.toNat (UInt8.lt_iff_toNat_lt.mp (of_decide_eq_true ascii))
      rw [UInt8.ofNat_toNat, isLead] at none
      contradiction

theorem Leads.decodeFrom {lead : Lead} {byte : UInt8} {digits : List Nat}
    (leads : Leads lead byte digits) (written : List Char) (rest : List UInt8) :
    decodeFrom .none written (byte :: (digits.map continuation ++ rest)) =
      decodeFrom .none
        (Char.ofNat (digits.foldl (fun bits d => bits * 64 + d) lead.bits) :: written) rest := by
  obtain ⟨isLead, length_eq, small, inRange, nonempty⟩ := leads
  obtain ⟨digit, others, rfl⟩ := List.exists_cons_of_ne_nil nonempty
  obtain ⟨above, below⟩ := inRange digit rfl
  have notAscii := of_decide_eq_false (isAsciiByte_of_lead?_eq_some isLead)
  rw [Utf8.decodeFrom, Pending.feed, begin, if_neg notAscii]
  simp only [isLead]
  cases lead with
  | mk following low high bits =>
      dsimp only at length_eq above below
      rw [length_eq]
      exact decodeFrom_inside small above below bits written rest

theorem lead?_two : ∀ top < 32, 2 ≤ top →
    lead? (UInt8.ofNat (top + 0xC0)) = some ⟨1, 0x80, 0xBF, top⟩ := by
  decide

theorem lead?_three : ∀ top < 16, lead? (UInt8.ofNat (top + 0xE0)) =
    some ⟨2, if top = 0 then 0xA0 else 0x80, if top = 13 then 0x9F else 0xBF, top⟩ := by
  decide

theorem lead?_four : ∀ top < 5, lead? (UInt8.ofNat (top + 0xF0)) =
    some ⟨3, if top = 0 then 0x90 else 0x80, if top = 4 then 0x8F else 0xBF, top⟩ := by
  decide

section

variable {n : Nat}

theorem leads_two (long : 0x80 ≤ n) (short : n ≤ 0x7FF) :
    Leads ⟨1, 0x80, 0xBF, n / 64 % 32⟩ (UInt8.ofNat (n / 64 % 32 + 0xC0)) [n % 64] := by
  have top : 2 ≤ n / 64 % 32 := by omega
  refine ⟨lead?_two _ (Nat.mod_lt _ (by decide)) top, rfl, ?_, ?_, List.cons_ne_nil _ _⟩
  · exact List.forall_mem_singleton.mpr (Nat.mod_lt n (by decide))
  · intro d isHead
    obtain rfl : n % 64 = d := Option.some.inj isHead
    exact ⟨show 0x80 ≤ n % 64 + 0x80 by omega, show n % 64 + 0x80 ≤ 0xBF by omega⟩

theorem leads_three (long : 0x800 ≤ n) (short : n ≤ 0xFFFF) (scalar : n < 0xD800 ∨ 0xDFFF < n) :
    Leads ⟨2, if n / 4096 % 16 = 0 then 0xA0 else 0x80, if n / 4096 % 16 = 13 then 0x9F else 0xBF,
      n / 4096 % 16⟩ (UInt8.ofNat (n / 4096 % 16 + 0xE0)) [n / 64 % 64, n % 64] := by
  refine ⟨lead?_three _ (Nat.mod_lt _ (by decide)), rfl, ?_, ?_, List.cons_ne_nil _ _⟩
  · exact List.forall_mem_cons.mpr ⟨Nat.mod_lt _ (by decide),
      List.forall_mem_singleton.mpr (Nat.mod_lt n (by decide))⟩
  · intro d isHead
    obtain rfl : n / 64 % 64 = d := Option.some.inj isHead
    simp only [apply_ite UInt8.toNat, UInt8.reduceToNat]
    constructor <;> split <;> omega

theorem leads_four (long : 0xFFFF < n) (short : n < 0x110000) :
    Leads ⟨3, if n / 262144 % 8 = 0 then 0x90 else 0x80, if n / 262144 % 8 = 4 then 0x8F else 0xBF,
      n / 262144 % 8⟩ (UInt8.ofNat (n / 262144 % 8 + 0xF0))
      [n / 4096 % 64, n / 64 % 64, n % 64] := by
  have top : n / 262144 % 8 < 5 := by omega
  refine ⟨lead?_four _ top, rfl, ?_, ?_, List.cons_ne_nil _ _⟩
  · exact List.forall_mem_cons.mpr ⟨Nat.mod_lt _ (by decide), List.forall_mem_cons.mpr
      ⟨Nat.mod_lt _ (by decide), List.forall_mem_singleton.mpr (Nat.mod_lt n (by decide))⟩⟩
  · intro d isHead
    obtain rfl : n / 4096 % 64 = d := Option.some.inj isHead
    simp only [apply_ite UInt8.toNat, UInt8.reduceToNat]
    constructor <;> split <;> omega

end

def encodeNumber (n : Nat) : List UInt8 :=
  if n ≤ 0x7F then [UInt8.ofNat n]
  else if n ≤ 0x7FF then UInt8.ofNat (n / 64 % 32 + 0xC0) :: [n % 64].map continuation
  else if n ≤ 0xFFFF then
    UInt8.ofNat (n / 4096 % 16 + 0xE0) :: [n / 64 % 64, n % 64].map continuation
  else UInt8.ofNat (n / 262144 % 8 + 0xF0) :: [n / 4096 % 64, n / 64 % 64, n % 64].map continuation

theorem utf8EncodeChar_eq (c : Char) : String.utf8EncodeChar c = encodeNumber c.toNat := rfl

theorem decodeFrom_ascii {n : Nat} (small : n ≤ 0x7F) (written : List Char) (rest : List UInt8) :
    decodeFrom .none written (UInt8.ofNat n :: rest) =
      decodeFrom .none (Char.ofNat n :: written) rest := by
  have same : (UInt8.ofNat n).toNat = n := UInt8.toNat_ofNat_of_lt' (show n < 256 by omega)
  have ascii : UInt8.ofNat n < 0x80 := by
    rw [UInt8.lt_iff_toNat_lt, same]
    exact Nat.lt_succ_of_le small
  rw [decodeFrom, Pending.feed, begin, if_pos ascii, same]
  rfl

theorem decodeFrom_encodeNumber {n : Nat} (scalar : n.isValidChar) (written : List Char)
    (rest : List UInt8) :
    decodeFrom .none written (encodeNumber n ++ rest) =
      decodeFrom .none (Char.ofNat n :: written) rest := by
  unfold Nat.isValidChar at scalar
  unfold encodeNumber
  split
  · rename_i small
    exact decodeFrom_ascii small written rest
  · split
    · rename_i long short
      have value : [n % 64].foldl (fun bits d => bits * 64 + d) (n / 64 % 32) = n := by
        simp only [List.foldl]
        omega
      have read := (leads_two (by omega) short).decodeFrom written rest
      rwa [value] at read
    · split
      · rename_i long short
        have value : [n / 64 % 64, n % 64].foldl (fun bits d => bits * 64 + d) (n / 4096 % 16) =
            n := by
          simp only [List.foldl]
          omega
        have read := (leads_three (by omega) short (by omega)).decodeFrom written rest
        rwa [value] at read
      · rename_i long
        have value : [n / 4096 % 64, n / 64 % 64, n % 64].foldl (fun bits d => bits * 64 + d)
            (n / 262144 % 8) = n := by
          simp only [List.foldl]
          omega
        have read := (leads_four (Nat.lt_of_not_le long) (by omega)).decodeFrom written rest
        rwa [value] at read

/-- No character is encoded with the bytes that the marks of UTF-16 consist of. -/
theorem toNat_lt_of_mem_encodeNumber {n : Nat} : ∀ byte ∈ encodeNumber n, byte.toNat < 0xF8 := by
  have ofSmall {k : Nat} (small : k < 0xF8) : (UInt8.ofNat k).toNat < 0xF8 := by
    rw [UInt8.toNat_ofNat']
    omega
  have digit (m : Nat) : (continuation (m % 64)).toNat < 0xF8 := ofSmall (by omega)
  have none : ∀ byte ∈ ([] : List UInt8), byte.toNat < 0xF8 := List.forall_mem_nil _
  simp only [encodeNumber, List.map_cons, List.map_nil]
  split
  · exact List.forall_mem_cons.mpr ⟨ofSmall (by omega), none⟩
  · split
    · exact List.forall_mem_cons.mpr ⟨ofSmall (by omega), List.forall_mem_cons.mpr ⟨digit _, none⟩⟩
    · split
      · simp only [List.forall_mem_cons]
        exact ⟨ofSmall (by omega), digit _, digit _, none⟩
      · simp only [List.forall_mem_cons]
        exact ⟨ofSmall (by omega), digit _, digit _, digit _, none⟩

theorem decodeFrom_encodeChars (chars written : List Char) :
    decodeFrom .none written (encodeChars chars) = written.reverse ++ chars := by
  induction chars generalizing written with
  | nil => rfl
  | cons c chars ih =>
      have scalar : c.toNat.isValidChar := c.valid
      rw [encodeChars, List.flatMap_cons, utf8EncodeChar_eq, decodeFrom_encodeNumber scalar,
        Char.ofNat_toNat]
      change decodeFrom .none (c :: written) (encodeChars chars) = _
      rw [ih, List.reverse_cons, List.append_assoc, List.singleton_append]

theorem decode_encode (text : String) : decode (encode text) = text.toList := by
  rw [decode, encode_eq, decodeFrom_encodeChars]
  rfl

end LanguageDetection.Text.Utf8
