import LanguageDetection.Text.Charset.Guess
import LanguageDetection.Text.Utf16

/-!
Texts of bytes whose encoding is not known. A byte-order mark decides; without one, bytes that are
well-formed UTF-8 are; anything else is read in the most plausible of the older charsets.
-/

namespace LanguageDetection.Text

inductive Marked
  | utf8
  | utf16 (order : Utf16.Order)
  deriving Repr, DecidableEq

def Marked.mark : Marked → List UInt8
  | .utf8 => [0xEF, 0xBB, 0xBF]
  | .utf16 .little => [0xFF, 0xFE]
  | .utf16 .big => [0xFE, 0xFF]

def Marked.decode : Marked → List UInt8 → List Char
  | .utf8 => Utf8.decode
  | .utf16 order => Utf16.decode order

def marked? : List UInt8 → Option (Marked × List UInt8)
  | 0xEF :: 0xBB :: 0xBF :: rest => some (.utf8, rest)
  | 0xFF :: 0xFE :: rest => some (.utf16 .little, rest)
  | 0xFE :: 0xFF :: rest => some (.utf16 .big, rest)
  | _ => none

def Utf8.decodeStrict? (bytes : List UInt8) : Option (List Char) :=
  (String.fromUTF8? ⟨bytes.toArray⟩).map (·.toList)

structure Decoded where
  text : String
  /-- The name of the charset that was guessed, if some bytes are no characters of it. -/
  damagedAs? : Option String := none
  deriving Repr, DecidableEq

def Charset.decode (charset : Charset) (bytes : List UInt8) : Decoded :=
  let pieces := charset.pieces bytes
  { text := String.ofList (pieces.flatMap (·.text))
    damagedAs? := if pieces.any (·.isDamaged) then some charset.name else none }

def decode (bytes : List UInt8) : Decoded :=
  match marked? bytes with
  | some (encoding, rest) => { text := String.ofList (encoding.decode rest) }
  | none => match Utf8.decodeStrict? bytes with
    | some chars => { text := String.ofList chars }
    | none => (Charset.guess bytes).decode bytes

def decodeText (bytes : List UInt8) : String :=
  (decode bytes).text

end LanguageDetection.Text
