import LanguageDetection.Text.Utf8

/-!
UTF-16 as lists of bytes, in either byte order. The decoder never fails: it writes U+FFFD for each
surrogate that stands alone and for a byte that is left over.
-/

namespace LanguageDetection.Text.Utf16

open Utf8 (replacement)

inductive Order
  | little
  | big
  deriving Repr, DecidableEq

def Order.unit (order : Order) (first second : UInt8) : Nat :=
  match order with
  | .little => second.toNat * 256 + first.toNat
  | .big => first.toNat * 256 + second.toNat

def isHigh (unit : Nat) : Bool := 0xD800 ≤ unit && unit < 0xDC00

def isLow (unit : Nat) : Bool := 0xDC00 ≤ unit && unit < 0xE000

def pair (high low : Nat) : Char :=
  Char.ofNat (0x10000 + (high - 0xD800) * 1024 + (low - 0xDC00))

/-- What is written for a unit that no high surrogate waits for, and the surrogate that waits then.
-/
def begin (unit : Nat) : Option Nat × List Char :=
  if isHigh unit then (some unit, [])
  else if isLow unit then (none, [replacement])
  else (none, [Char.ofNat unit])

def feed (waiting : Option Nat) (unit : Nat) : Option Nat × List Char :=
  match waiting with
  | none => begin unit
  | some high =>
      if isLow unit then (none, [pair high unit])
      else
        let (next, out) := begin unit
        (next, replacement :: out)

def decodeFrom (order : Order) (waiting : Option Nat) (written : List Char) : List UInt8 → List Char
  | [] => written.reverse ++ (if waiting.isSome then [replacement] else [])
  | [_] => written.reverse ++ [replacement]
  | first :: second :: rest =>
      let (next, out) := feed waiting (order.unit first second)
      decodeFrom order next (out.reverse ++ written) rest

def decode (order : Order) (bytes : List UInt8) : List Char :=
  decodeFrom order none [] bytes

end LanguageDetection.Text.Utf16
