import LanguageDetection.Proofs.Pattern.Searching
import LanguageDetection.Proofs.Text.Ascii

/-!
Expressions over ASCII: they match ASCII words only, and word boundaries read the same beside a byte
that is not ASCII and at the end of the bytes. So such a byte parts what stands before it from what
stands after it.
-/

namespace LanguageDetection.Pattern

open LanguageDetection.Text

/-- Whether only ASCII is read, and nothing is asked of a place but where words begin and end. -/
def Regex.isAscii : Regex → Bool
  | .empty => true
  | .byte set => set.all fun range => isAsciiByte range.last
  | .anchor (.word _ .ascii) => true
  | .anchor _ => false
  | .cat left right => left.isAscii && right.isAscii
  | .alt left right => left.isAscii && right.isAscii
  | .repeated body _ _ => body.isAscii

/-- Whether a word character stands next to a place. -/
def isWordSide (bytes : List UInt8) : Bool :=
  (Side.ofByte bytes).isWord

theorem isWordByte_eq_false {byte : UInt8} (notAscii : isAsciiByte byte = false) :
    isWordByte byte = false := by
  unfold isAsciiByte at notAscii
  unfold isWordByte
  grind

theorem isWordSide_append_cons {byte : UInt8} (notWord : isWordByte byte = false)
    (near far : List UInt8) : isWordSide (near ++ byte :: far) = isWordSide near := by
  cases near with
  | nil => exact notWord
  | cons first rest => rfl

theorem isWordSide_reverse_append_cons {byte : UInt8} (notWord : isWordByte byte = false)
    (far near : List UInt8) :
    isWordSide (far ++ byte :: near).reverse = isWordSide near.reverse := by
  rw [List.reverse_append, List.reverse_cons, List.append_assoc]
  exact isWordSide_append_cons notWord near.reverse far.reverse

theorem isWordSide_append {bytes bytes' : List UInt8} (same : isWordSide bytes = isWordSide bytes')
    (near : List UInt8) : isWordSide (near ++ bytes) = isWordSide (near ++ bytes') := by
  cases near with
  | nil => exact same
  | cons first rest => rfl

theorem holds_word_congr {test : WordTest} {before before' after after' : List UInt8}
    (sameBefore : isWordSide before = isWordSide before')
    (sameAfter : isWordSide after = isWordSide after') :
    (Anchor.word test .ascii).holds before after = (Anchor.word test .ascii).holds before' after' := by
  have whole : ∀ bytes, (Side.ofByte bytes).isBroken = false := by
    intro bytes
    cases bytes <;> rfl
  simp only [isWordSide] at sameBefore sameAfter
  simp only [Anchor.holds, Alphabet.before, Alphabet.after]
  cases test <;> simp [WordTest.holds, whole, sameBefore, sameAfter]

theorem split_of_not_mem {α : Type} {left right before word after : List α} {item : α}
    (split : left ++ item :: right = before ++ word ++ after) (absent : item ∉ word) :
    (∃ near, left = before ++ word ++ near ∧ after = near ++ item :: right) ∨
      ∃ near, before = left ++ item :: near ∧ right = near ++ word ++ after := by
  cases List.append_eq_append_iff.mp split with
  | inr afterWord =>
      obtain ⟨near, leftEq, afterEq⟩ := afterWord
      exact .inl ⟨near, leftEq, afterEq⟩
  | inl notAfter =>
      obtain ⟨reach, wordEnd, itemEq⟩ := notAfter
      cases List.cons_eq_append_iff.mp itemEq with
      | inl atEnd =>
          obtain ⟨rfl, rfl⟩ := atEnd
          exact .inl ⟨[], by simpa using wordEnd.symm, rfl⟩
      | inr within =>
          obtain ⟨reach, rfl, rfl⟩ := within
          cases List.append_eq_append_iff.mp wordEnd with
          | inl inWord =>
              obtain ⟨start, -, rfl⟩ := inWord
              exact absurd (List.mem_append_right start List.mem_cons_self) absent
          | inr beforeWord =>
              obtain ⟨start, rfl, startEq⟩ := beforeWord
              cases List.cons_eq_append_iff.mp startEq with
              | inl atStart => exact absurd (atStart.2 ▸ List.mem_cons_self) absent
              | inr apart =>
                  obtain ⟨near, rfl, rfl⟩ := apart
                  exact .inr ⟨near, rfl, rfl⟩

namespace Regex

variable {r : Regex} {before before' word after after' : List UInt8}

theorem forall_mem_of_copies {holds : List UInt8 → List UInt8 → List UInt8 → Prop}
    {p : UInt8 → Prop} (words : ∀ {before word after}, holds before word after → ∀ byte ∈ word, p byte)
    {n : Nat} (copies : Copies holds n before word after) : ∀ byte ∈ word, p byte := by
  induction n generalizing before word with
  | zero =>
      obtain rfl : word = [] := copies
      exact List.forall_mem_nil _
  | succ n ih =>
      obtain ⟨first, rest, rfl, isFirst, others⟩ := copies
      exact List.forall_mem_append.mpr ⟨words isFirst, ih others⟩

theorem isAsciiByte_of_matches (ascii : r.isAscii = true) :
    r.Matches before word after → ∀ byte ∈ word, isAsciiByte byte = true := by
  induction r generalizing before word after with
  | empty =>
      rintro rfl
      exact List.forall_mem_nil _
  | byte set =>
      rintro ⟨byte, contained, rfl⟩
      obtain ⟨range, member, inRange⟩ := List.any_eq_true.mp contained
      have lastAscii := of_decide_eq_true (List.all_eq_true.mp ascii range member)
      have notAbove := of_decide_eq_true (Bool.and_eq_true_iff.mp inRange).2
      exact List.forall_mem_singleton.mpr
        (decide_eq_true (UInt8.lt_of_le_of_lt notAbove lastAscii))
  | anchor a =>
      rintro ⟨rfl, -⟩
      exact List.forall_mem_nil _
  | cat left right ihLeft ihRight =>
      obtain ⟨leftAscii, rightAscii⟩ := Bool.and_eq_true_iff.mp ascii
      rintro ⟨first, rest, rfl, isLeft, isRight⟩
      exact List.forall_mem_append.mpr ⟨ihLeft leftAscii isLeft, ihRight rightAscii isRight⟩
  | alt left right ihLeft ihRight =>
      obtain ⟨leftAscii, rightAscii⟩ := Bool.and_eq_true_iff.mp ascii
      rintro (isLeft | isRight)
      · exact ihLeft leftAscii isLeft
      · exact ihRight rightAscii isRight
  | repeated body least most ih =>
      rintro ⟨n, -, -, copies⟩
      exact forall_mem_of_copies (ih ascii) copies

theorem copies_congr {holds : List UInt8 → List UInt8 → List UInt8 → Prop}
    (same : ∀ before before' word after after', isWordSide before = isWordSide before' →
      isWordSide after = isWordSide after' → (holds before word after ↔ holds before' word after'))
    (sameBefore : isWordSide before = isWordSide before')
    (sameAfter : isWordSide after = isWordSide after') {n : Nat} :
    Copies holds n before word after ↔ Copies holds n before' word after' := by
  -- The sides change from copy to copy, but stay the same at both places.
  induction n generalizing before before' word with
  | zero => rfl
  | succ n ih =>
      refine exists_congr fun first => exists_congr fun rest => and_congr_right fun _ => ?_
      exact and_congr (same _ _ _ _ _ sameBefore (isWordSide_append sameAfter rest))
        (ih (isWordSide_append sameBefore first.reverse))

/-- Of what surrounds a word, only the sides that it stands next to matter. -/
theorem matches_congr (ascii : r.isAscii = true) (sameBefore : isWordSide before = isWordSide before')
    (sameAfter : isWordSide after = isWordSide after') :
    r.Matches before word after ↔ r.Matches before' word after' := by
  induction r generalizing before before' word after after' with
  | empty => rfl
  | byte set => rfl
  | anchor a =>
      cases a with
      | word test alphabet =>
          cases alphabet with
          | ascii => rw [Matches, Matches, holds_word_congr sameBefore sameAfter]
          | unicode => contradiction
      | _ => contradiction
  | cat left right ihLeft ihRight =>
      obtain ⟨leftAscii, rightAscii⟩ := Bool.and_eq_true_iff.mp ascii
      refine exists_congr fun first => exists_congr fun rest => and_congr_right fun _ => ?_
      exact and_congr (ihLeft leftAscii sameBefore (isWordSide_append sameAfter rest))
        (ihRight rightAscii (isWordSide_append sameBefore first.reverse) sameAfter)
  | alt left right ihLeft ihRight =>
      obtain ⟨leftAscii, rightAscii⟩ := Bool.and_eq_true_iff.mp ascii
      exact or_congr (ihLeft leftAscii sameBefore sameAfter) (ihRight rightAscii sameBefore sameAfter)
  | repeated body least most ih =>
      refine exists_congr fun n => and_congr_right fun _ => and_congr_right fun _ => ?_
      refine copies_congr ?_ sameBefore sameAfter
      intro _ _ _ _ _ sameBefore sameAfter
      exact ih ascii sameBefore sameAfter

variable {left right : List UInt8} {byte : UInt8}

theorem occursIn_append_cons_of_left (ascii : r.isAscii = true)
    (notWord : isWordByte byte = false) (occurs : r.OccursIn left) :
    r.OccursIn (left ++ byte :: right) := by
  obtain ⟨before, word, after, rfl, isMatch⟩ := occurs
  refine ⟨before, word, after ++ byte :: right, by simp, ?_⟩
  exact (matches_congr ascii rfl (isWordSide_append_cons notWord after right)).mpr isMatch

theorem occursIn_append_cons_of_right (ascii : r.isAscii = true)
    (notWord : isWordByte byte = false) (occurs : r.OccursIn right) :
    r.OccursIn (left ++ byte :: right) := by
  obtain ⟨before, word, after, rfl, isMatch⟩ := occurs
  refine ⟨left ++ byte :: before, word, after, by simp, ?_⟩
  have same := isWordSide_reverse_append_cons notWord left before
  exact (matches_congr ascii same rfl).mpr isMatch

/-- No match reaches over a byte that is not ASCII. -/
theorem occursIn_append_cons_iff (ascii : r.isAscii = true) (notAscii : isAsciiByte byte = false) :
    r.OccursIn (left ++ byte :: right) ↔ r.OccursIn left ∨ r.OccursIn right := by
  have notWord := isWordByte_eq_false notAscii
  constructor
  · rintro ⟨before, word, after, split, isMatch⟩
    have absent : byte ∉ word := fun member =>
      Bool.false_ne_true (notAscii.symm.trans (isAsciiByte_of_matches ascii isMatch byte member))
    cases split_of_not_mem split absent with
    | inl inLeft =>
        obtain ⟨near, leftEq, rfl⟩ := inLeft
        have same := isWordSide_append_cons notWord near right
        exact .inl ⟨before, word, near, leftEq, (matches_congr ascii rfl same).mp isMatch⟩
    | inr inRight =>
        obtain ⟨near, rfl, rightEq⟩ := inRight
        have same := isWordSide_reverse_append_cons notWord left near
        exact .inr ⟨near, word, after, rightEq, (matches_congr ascii same rfl).mp isMatch⟩
  · rintro (inLeft | inRight)
    · exact occursIn_append_cons_of_left ascii notWord inLeft
    · exact occursIn_append_cons_of_right ascii notWord inRight

theorem not_occursIn_nil (notEmpty : r.canBeEmpty = false) : ¬ r.OccursIn [] := by
  rintro ⟨before, word, after, split, isMatch⟩
  obtain ⟨beforeWord, rfl⟩ := List.append_eq_nil_iff.mp split.symm
  obtain ⟨rfl, rfl⟩ := List.append_eq_nil_iff.mp beforeWord
  exact Bool.false_ne_true (notEmpty.symm.trans (canBeEmpty_of_matches isMatch))

/-- However many bytes that are not ASCII stand together, nothing is matched between them. -/
theorem occursIn_append_iff (ascii : r.isAscii = true) (notEmpty : r.canBeEmpty = false)
    {between : List UInt8} (nonempty : between ≠ [])
    (notAscii : ∀ byte ∈ between, isAsciiByte byte = false) :
    r.OccursIn (left ++ (between ++ right)) ↔ r.OccursIn left ∨ r.OccursIn right := by
  induction between generalizing left with
  | nil => contradiction
  | cons byte rest ih =>
      obtain ⟨first, others⟩ := List.forall_mem_cons.mp notAscii
      rw [List.cons_append, occursIn_append_cons_iff ascii first]
      cases rest with
      | nil => rfl
      | cons byte' rest =>
          have fromRest := @ih [] (List.cons_ne_nil byte' rest) others
          rw [List.nil_append] at fromRest
          rw [fromRest, or_iff_right (not_occursIn_nil notEmpty)]

section

variable {lead before run after rest s t : List Char}

theorem ne_nil_of_occursIn (notEmpty : r.canBeEmpty = false)
    (occurs : r.OccursIn (Utf8.encodeChars run)) : run ≠ [] := by
  intro none
  rw [none] at occurs
  exact not_occursIn_nil notEmpty occurs

theorem occursIn_encodeChars_append_iff (ascii : r.isAscii = true)
    (notEmpty : r.canBeEmpty = false) {between : List Char} (isForeign : IsForeign between) :
    r.OccursIn (Utf8.encodeChars (lead ++ (between ++ rest))) ↔
      r.OccursIn (Utf8.encodeChars lead) ∨ r.OccursIn (Utf8.encodeChars rest) := by
  rw [Utf8.encodeChars_append, Utf8.encodeChars_append]
  exact occursIn_append_iff ascii notEmpty (Utf8.encodeChars_ne_nil isForeign.nonempty)
    (Utf8.isAsciiByte_encodeChars isForeign)

theorem occursIn_encodeChars_of_isLongestRun (ascii : r.isAscii = true)
    (notEmpty : r.canBeEmpty = false) (isRun : IsLongestRun before run after)
    (occurs : r.OccursIn (Utf8.encodeChars run)) :
    r.OccursIn (Utf8.encodeChars (before ++ run ++ after)) := by
  have withBefore : r.OccursIn (Utf8.encodeChars (before ++ run)) := by
    cases List.eq_nil_or_concat before with
    | inl none => rwa [none]
    | inr some =>
        obtain ⟨far, c, rfl⟩ := some
        have foreign : c.isAscii = false := isRun.start c (by simp)
        rw [List.concat_eq_append, List.append_assoc]
        exact (occursIn_encodeChars_append_iff ascii notEmpty (.singleton foreign)).mpr (.inr occurs)
  cases after with
  | nil => rwa [List.append_nil]
  | cons c far =>
      have foreign : c.isAscii = false := isRun.stop c rfl
      exact (occursIn_encodeChars_append_iff ascii notEmpty (.singleton foreign)).mpr
        (.inl withBefore)

theorem exists_isLongestRun_of_occursIn (ascii : r.isAscii = true)
    (notEmpty : r.canBeEmpty = false) (leadAscii : ∀ c ∈ lead, c.isAscii = true)
    (occurs : r.OccursIn (Utf8.encodeChars (lead ++ rest))) :
    ∃ before run after, lead ++ rest = before ++ run ++ after ∧ IsLongestRun before run after ∧
      r.OccursIn (Utf8.encodeChars run) := by
  -- What has been read belongs to the run until a character ends it; then another run is begun.
  induction rest generalizing lead with
  | nil =>
      rw [List.append_nil] at occurs ⊢
      have nonempty := ne_nil_of_occursIn notEmpty occurs
      exact ⟨[], lead, [], by simp, ⟨nonempty, leadAscii, by simp, by simp⟩, occurs⟩
  | cons c rest ih =>
      cases isAscii : c.isAscii with
      | true =>
          rw [List.append_cons] at occurs ⊢
          exact ih (List.forall_mem_append.mpr ⟨leadAscii, by simpa using isAscii⟩) occurs
      | false =>
          cases (occursIn_encodeChars_append_iff ascii notEmpty (.singleton isAscii)).mp occurs with
          | inl inLead =>
              have nonempty := ne_nil_of_occursIn notEmpty inLead
              exact ⟨[], lead, c :: rest, rfl,
                ⟨nonempty, leadAscii, by simp, by simpa using isAscii⟩, inLead⟩
          | inr inRest =>
              obtain ⟨before, run, after, split, isRun, inRun⟩ :=
                @ih [] (List.forall_mem_nil _) inRest
              refine ⟨lead ++ c :: before, run, after, ?_, isRun.cons isAscii lead, inRun⟩
              rw [show rest = before ++ run ++ after from split]
              simp

/-- What stands between the ASCII characters makes no difference to where a match is found. -/
theorem occursIn_encodeChars_recoded (ascii : r.isAscii = true) (notEmpty : r.canBeEmpty = false)
    (recoded : Recoded s t) : r.OccursIn (Utf8.encodeChars (lead ++ s)) ↔
      r.OccursIn (Utf8.encodeChars (lead ++ t)) := by
  induction recoded generalizing lead with
  | nil => rfl
  | @ascii s t c isAscii rest ih =>
      rw [List.append_cons lead c s, List.append_cons lead c t]
      exact ih
  | foreign replaced put rest ih =>
      rw [occursIn_encodeChars_append_iff ascii notEmpty replaced,
        occursIn_encodeChars_append_iff ascii notEmpty put]
      exact or_congr_right (@ih [])

end

/-- Whether an expression is found in ASCII runs only, each of them by itself. -/
def isConfined (r : Regex) : Bool :=
  r.isProper && r.isAscii && !r.canBeEmpty

theorem isConfined_iff : r.isConfined = true ↔
    r.isProper = true ∧ r.isAscii = true ∧ r.canBeEmpty = false := by
  simp [isConfined, and_assoc]

end Regex

namespace Searcher

variable {r : Regex}

theorem search_encode_iff (confined : r.isConfined = true) (text : String) :
    (ofRegex r).search (Utf8.encode text) = true ↔
      ∃ run, IsAsciiRun text run ∧ (ofRegex r).search (Utf8.encode run) = true := by
  obtain ⟨proper, ascii, notEmpty⟩ := Regex.isConfined_iff.mp confined
  simp only [search_iff proper, Utf8.encode_eq]
  constructor
  · intro occurs
    obtain ⟨before, run, after, split, isRun, inRun⟩ :=
      @Regex.exists_isLongestRun_of_occursIn r [] text.toList ascii notEmpty (List.forall_mem_nil _)
        occurs
    rw [List.nil_append] at split
    refine ⟨String.ofList run, ⟨before, after, ?_, ?_⟩, ?_⟩
    · rw [String.toList_ofList, split]
    · rwa [String.toList_ofList]
    · rwa [String.toList_ofList]
  · rintro ⟨run, ⟨before, after, split, isRun⟩, inRun⟩
    rw [split]
    exact Regex.occursIn_encodeChars_of_isLongestRun ascii notEmpty isRun inRun

theorem search_encode_recoded (confined : r.isConfined = true) {s t : String}
    (recoded : Recoded s.toList t.toList) :
    (ofRegex r).search (Utf8.encode s) = (ofRegex r).search (Utf8.encode t) := by
  obtain ⟨proper, ascii, notEmpty⟩ := Regex.isConfined_iff.mp confined
  rw [Bool.eq_iff_iff, search_iff proper, search_iff proper, Utf8.encode_eq, Utf8.encode_eq]
  exact @Regex.occursIn_encodeChars_recoded r [] _ _ ascii notEmpty recoded

end Searcher

end LanguageDetection.Pattern
