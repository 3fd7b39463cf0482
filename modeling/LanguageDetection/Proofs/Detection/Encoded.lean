import LanguageDetection.Detection.Detector
import LanguageDetection.Proofs.Text.Utf8
import LanguageDetection.Proofs.Text.Utf16

/-!
Encoded texts: a text in UTF-8, or in one of the encodings that a byte-order mark announces behind
that mark, is decoded to itself. One mark is taken off, and no more.
-/

namespace LanguageDetection.Text

def Marked.encode : Marked → String → List UInt8
  | .utf8 => Utf8.encode
  | .utf16 order => Utf16.encode order

def markChar : Char := '\uFEFF'

theorem marked?_mark_append (encoding : Marked) (bytes : List UInt8) :
    marked? (encoding.mark ++ bytes) = some (encoding, bytes) := by
  cases encoding with
  | utf8 => rfl
  | utf16 order => cases order <;> rfl

theorem Marked.decode_encode (encoding : Marked) (text : String) :
    encoding.decode (encoding.encode text) = text.toList := by
  cases encoding with
  | utf8 => exact Utf8.decode_encode text
  | utf16 order => exact Utf16.decode_encode order text

theorem decodeText_mark_append (encoding : Marked) (text : String) :
    decodeText (encoding.mark ++ encoding.encode text) = text := by
  rw [decodeText, decode, marked?_mark_append]
  simp only [Marked.decode_encode, String.ofList_toList]

namespace Utf8

theorem decodeStrict?_encode (text : String) : decodeStrict? (encode text) = some text.toList := by
  have bytes : (⟨(encode text).toArray⟩ : ByteArray) = text.toByteArray := by
    rw [encode, ByteArray.toList, toList_loop_eq]
    rfl
  rw [decodeStrict?, bytes, String.fromUTF8?, dif_pos text.isValidUTF8]
  rfl

theorem toNat_lt_of_mem_encode {text : String} {byte : UInt8} (member : byte ∈ encode text) :
    byte.toNat < 0xF8 := by
  rw [encode_eq, encodeChars] at member
  obtain ⟨c, -, isByte⟩ := List.mem_flatMap.mp member
  exact toNat_lt_of_mem_encodeNumber byte isByte

theorem head?_of_encode_eq_mark_append {text : String} {rest : List UInt8}
    (marked : encode text = Marked.utf8.mark ++ rest) : text.toList.head? = some markChar := by
  rw [← decode_encode text, marked, decode]
  change (decodeFrom .none [markChar] rest).head? = _
  rw [decodeFrom_eq]
  rfl

end Utf8

theorem marked?_encode {text : String} (unmarked : text.toList.head? ≠ some markChar) :
    marked? (Utf8.encode text) = none := by
  -- The bytes 0xFF and 0xFE that UTF-16 is announced with are in no text in UTF-8.
  have notMember (byte : UInt8) (above : 0xF8 ≤ byte.toNat) : byte ∉ Utf8.encode text :=
    fun member => absurd (Utf8.toNat_lt_of_mem_encode member) (Nat.not_lt.mpr above)
  generalize same : Utf8.encode text = bytes at notMember
  unfold marked?
  split
  · exact absurd (Utf8.head?_of_encode_eq_mark_append same) unmarked
  · exact absurd List.mem_cons_self (notMember 0xFF (by decide))
  · exact absurd List.mem_cons_self (notMember 0xFE (by decide))
  · rfl

theorem decodeText_encode {text : String} (unmarked : text.toList.head? ≠ some markChar) :
    decodeText (Utf8.encode text) = text := by
  rw [decodeText, decode, marked?_encode unmarked, Utf8.decodeStrict?_encode]
  exact String.ofList_toList

/-- A text that starts with the character of the mark loses it, as it is taken for a mark. -/
theorem decodeText_encode_mark_append (text : String) :
    decodeText (Utf8.encode (String.ofList [markChar] ++ text)) = text := by
  have bytes : Utf8.encode (String.ofList [markChar] ++ text) =
      Marked.utf8.mark ++ Marked.utf8.encode text := by
    simp only [Marked.encode, Utf8.encode_eq, String.toList_append, Utf8.encodeChars,
      List.flatMap_append]
    rfl
  rw [bytes, decodeText_mark_append]

theorem decodeText_encode_eq_iff (text : String) :
    decodeText (Utf8.encode text) = text ↔ text.toList.head? ≠ some markChar := by
  refine ⟨fun same isMark => ?_, decodeText_encode⟩
  obtain ⟨rest, chars⟩ := List.head?_eq_some_iff.mp isMark
  have whole : text = String.ofList [markChar] ++ String.ofList rest := by
    rw [← String.toList_inj, chars, String.toList_append, String.toList_ofList,
      String.toList_ofList, List.singleton_append]
  rw [whole, decodeText_encode_mark_append, ← whole] at same
  have length := congrArg (·.toList.length) same
  simp only [chars, String.toList_ofList, List.length_cons] at length
  omega

end LanguageDetection.Text

namespace LanguageDetection.Detector

open LanguageDetection.Text

/-- One mark is taken off encoded texts, and the rest is the text that was encoded: the verdict on
the bytes is the one on the text. -/
theorem detectBytes_encoded (text : String) :
    (decodeText (Utf8.encode text) = text ↔ text.toList.head? ≠ some '\uFEFF') ∧
    (∀ encoding : Marked, decodeText (encoding.mark ++ encoding.encode text) = text) ∧
    ∀ (detector : Detector) (filename : Option String),
      (text.toList.head? ≠ some '\uFEFF' →
        detector.detectBytes (Utf8.encode text) filename = detector.detect text filename) ∧
      ∀ encoding : Marked, detector.detectBytes (encoding.mark ++ encoding.encode text) filename =
        detector.detect text filename := by
  refine ⟨decodeText_encode_eq_iff text, (decodeText_mark_append · text),
    fun detector filename => ⟨fun unmarked => ?_, fun encoding => ?_⟩⟩
  · rw [detectBytes, decodeText_encode unmarked]
  · rw [detectBytes, decodeText_mark_append]

/-- A text beyond the basic plane is the same without a mark and behind any; one that starts with
the character of the mark keeps it behind a mark. -/
theorem detectBytes_encoded_marks :
    decodeText [0xF0, 0x9F, 0x98, 0x80] = "😀" ∧
    decodeText [0xEF, 0xBB, 0xBF, 0xF0, 0x9F, 0x98, 0x80] = "😀" ∧
    decodeText [0xFF, 0xFE, 0x3D, 0xD8, 0x00, 0xDE] = "😀" ∧
    decodeText [0xFE, 0xFF, 0xD8, 0x3D, 0xDE, 0x00] = "😀" ∧
    decodeText [0xEF, 0xBB, 0xBF, 0xEF, 0xBB, 0xBF, 0x41] = "\uFEFFA" ∧
    ∀ (detector : Detector) (filename : Option String),
      detector.detectBytes [0xF0, 0x9F, 0x98, 0x80] filename = detector.detect "😀" filename ∧
      detector.detectBytes [0xFE, 0xFF, 0xD8, 0x3D, 0xDE, 0x00] filename =
        detector.detect "😀" filename := by
  have unmarked : "😀".toList.head? ≠ some '\uFEFF' := by decide
  have smile : Utf8.encode "😀" = [0xF0, 0x9F, 0x98, 0x80] := by
    rw [Utf8.encode_eq]
    decide
  have markA : Utf8.encode "\uFEFFA" = [0xEF, 0xBB, 0xBF, 0x41] := by
    rw [Utf8.encode_eq]
    decide
  obtain ⟨plain, behind, verdicts⟩ := detectBytes_encoded "😀"
  obtain ⟨-, behindMark, -⟩ := detectBytes_encoded "\uFEFFA"
  have plainSmile := plain.mpr unmarked
  have markedSmile := behind .utf8
  have markedMark := behindMark .utf8
  rw [Marked.encode, markA] at markedMark
  rw [Marked.encode, smile] at markedSmile
  rw [smile] at plainSmile verdicts
  exact ⟨plainSmile, markedSmile, behind (.utf16 .little), behind (.utf16 .big), markedMark,
    fun detector filename =>
      ⟨(verdicts detector filename).1 unmarked, (verdicts detector filename).2 (.utf16 .big)⟩⟩

end LanguageDetection.Detector
