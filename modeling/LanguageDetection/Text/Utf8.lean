/-!
UTF-8 as lists of bytes: reading one character from either end of a byte list, and the decoder that
never fails, which writes U+FFFD for every maximal ill-formed part.
-/

namespace LanguageDetection.Text.Utf8

def replacement : Char := '\uFFFD'

def isContinuation (byte : UInt8) : Bool :=
  0x80 ≤ byte && byte ≤ 0xBF

/-- What the first byte of a character says about the rest of it: how many bytes follow, the range
the next one has to lie in, and the bits read so far. -/
structure Lead where
  following : Nat
  low : UInt8
  high : UInt8
  bits : Nat
  deriving Repr, DecidableEq

/-- The lead bytes of characters longer than one byte. Overlong forms, surrogates and values above
U+10FFFF are excluded by the range of the second byte. -/
def lead? (byte : UInt8) : Option Lead :=
  if 0xC2 ≤ byte && byte ≤ 0xDF then some ⟨1, 0x80, 0xBF, byte.toNat - 0xC0⟩
  else if byte == 0xE0 then some ⟨2, 0xA0, 0xBF, 0⟩
  else if byte == 0xED then some ⟨2, 0x80, 0x9F, 13⟩
  else if 0xE1 ≤ byte && byte ≤ 0xEF then some ⟨2, 0x80, 0xBF, byte.toNat - 0xE0⟩
  else if byte == 0xF0 then some ⟨3, 0x90, 0xBF, 0⟩
  else if 0xF1 ≤ byte && byte ≤ 0xF3 then some ⟨3, 0x80, 0xBF, byte.toNat - 0xF0⟩
  else if byte == 0xF4 then some ⟨3, 0x80, 0x8F, 4⟩
  else none

def addContinuation (bits : Nat) (byte : UInt8) : Nat :=
  bits * 64 + (byte.toNat - 0x80)

private def complete? : Nat → UInt8 → UInt8 → Nat → List UInt8 → Option Char
  | 0, _, _, bits, _ => some (Char.ofNat bits)
  | _ + 1, _, _, _, [] => none
  | following + 1, low, high, bits, byte :: rest =>
      if low ≤ byte && byte ≤ high then
        complete? following 0x80 0xBF (addContinuation bits byte) rest
      else none

def first? : List UInt8 → Option Char
  | [] => none
  | byte :: rest =>
      if byte < 0x80 then some (Char.ofNat byte.toNat)
      else match lead? byte with
        | none => none
        | some lead => complete? lead.following lead.low lead.high lead.bits rest

def last? (reversed : List UInt8) : Option Char :=
  let tail := reversed.takeWhile isContinuation
  match reversed.drop tail.length with
  | [] => none
  | byte :: _ =>
      if byte < 0x80 then
        if tail.isEmpty then some (Char.ofNat byte.toNat) else none
      else match lead? byte with
        | none => none
        | some lead =>
            if lead.following = tail.length then first? (byte :: tail.reverse) else none

inductive Pending
  | none
  | inside (lead : Lead)
  deriving Repr, DecidableEq

def begin (byte : UInt8) : Pending × List Char :=
  if byte < 0x80 then (.none, [Char.ofNat byte.toNat])
  else match lead? byte with
    | none => (.none, [replacement])
    | some lead => (.inside lead, [])

/-- One step. A byte that cannot continue the character begins the next one. -/
def Pending.feed (pending : Pending) (byte : UInt8) : Pending × List Char :=
  match pending with
  | .none => begin byte
  | .inside lead =>
      if lead.low ≤ byte && byte ≤ lead.high then
        let bits := addContinuation lead.bits byte
        if lead.following = 1 then (.none, [Char.ofNat bits])
        else (.inside ⟨lead.following - 1, 0x80, 0xBF, bits⟩, [])
      else
        let (next, out) := begin byte
        (next, replacement :: out)

def Pending.finish : Pending → List Char
  | .none => []
  | .inside _ => [replacement]

/-- Decoding from a state, the output so far reversed. -/
def decodeFrom (pending : Pending) (written : List Char) : List UInt8 → List Char
  | [] => written.reverse ++ pending.finish
  | byte :: rest =>
      let (next, out) := pending.feed byte
      decodeFrom next (out.reverse ++ written) rest

/-- Decodes bytes as UTF-8, writing U+FFFD for each maximal part that is not well-formed. -/
def decode (bytes : List UInt8) : List Char :=
  decodeFrom .none [] bytes

def encode (text : String) : List UInt8 :=
  text.toUTF8.toList

end LanguageDetection.Text.Utf8
