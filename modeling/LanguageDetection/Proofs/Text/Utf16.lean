import LanguageDetection.Text.Utf16
import Mathlib

/-!
UTF-16 read back: the decoder writes the characters that were encoded, and joins the surrogates of
those beyond the basic plane.
-/

namespace LanguageDetection.Text.Utf16

/-- The units of a character: itself, or a high and a low surrogate. -/
def units (c : Char) : List Nat :=
  if c.toNat < 0x10000 then [c.toNat]
  else [0xD800 + (c.toNat - 0x10000) / 1024, 0xDC00 + (c.toNat - 0x10000) % 1024]

def Order.bytes (order : Order) (unit : Nat) : List UInt8 :=
  match order with
  | .little => [UInt8.ofNat unit, UInt8.ofNat (unit / 256)]
  | .big => [UInt8.ofNat (unit / 256), UInt8.ofNat unit]

def encode (order : Order) (text : String) : List UInt8 :=
  text.toList.flatMap fun c => (units c).flatMap order.bytes

example : encode .little "é😀" = [0xE9, 0x00, 0x3D, 0xD8, 0x00, 0xDE] := by decide

variable {order : Order}

theorem decodeFrom_bytes {unit : Nat} (small : unit < 0x10000) (waiting : Option Nat)
    (written : List Char) (rest : List UInt8) :
    decodeFrom order waiting written (order.bytes unit ++ rest) =
      decodeFrom order (feed waiting unit).1 ((feed waiting unit).2.reverse ++ written) rest := by
  have low : (UInt8.ofNat unit).toNat = unit % 256 := UInt8.toNat_ofNat'
  have high : (UInt8.ofNat (unit / 256)).toNat = unit / 256 :=
    UInt8.toNat_ofNat_of_lt' (show unit / 256 < 256 by omega)
  have together : unit / 256 * 256 + unit % 256 = unit := Nat.div_add_mod' unit 256
  cases order with
  | little =>
      rw [Order.bytes, List.cons_append, List.singleton_append, decodeFrom, Order.unit, low, high,
        together]
  | big =>
      rw [Order.bytes, List.cons_append, List.singleton_append, decodeFrom, Order.unit, low, high,
        together]

theorem feed_basic {c : Char} (basic : c.toNat < 0x10000) : feed none c.toNat = (none, [c]) := by
  have scalar : c.toNat.isValidChar := c.valid
  unfold Nat.isValidChar at scalar
  have notHigh : isHigh c.toNat = false := by
    simp only [isHigh, Bool.and_eq_false_iff, decide_eq_false_iff_not]
    omega
  have notLow : isLow c.toNat = false := by
    simp only [isLow, Bool.and_eq_false_iff, decide_eq_false_iff_not]
    omega
  rw [feed, begin, notHigh, notLow, Char.ofNat_toNat]
  rfl

theorem feed_high {n : Nat} (small : n < 1024) :
    feed none (0xD800 + n) = (some (0xD800 + n), []) := by
  have high : isHigh (0xD800 + n) = true := by
    simp only [isHigh, Bool.and_eq_true, decide_eq_true_eq]
    omega
  rw [feed, begin, high]
  rfl

theorem feed_low {high n : Nat} (small : n < 1024) :
    feed (some high) (0xDC00 + n) = (none, [pair high (0xDC00 + n)]) := by
  have low : isLow (0xDC00 + n) = true := by
    simp only [isLow, Bool.and_eq_true, decide_eq_true_eq]
    omega
  rw [feed, low]
  rfl

theorem pair_surrogates {c : Char} (astral : 0x10000 ≤ c.toNat) :
    pair (0xD800 + (c.toNat - 0x10000) / 1024) (0xDC00 + (c.toNat - 0x10000) % 1024) = c := by
  have number : 0x10000 + (0xD800 + (c.toNat - 0x10000) / 1024 - 0xD800) * 1024 +
      (0xDC00 + (c.toNat - 0x10000) % 1024 - 0xDC00) = c.toNat := by omega
  rw [pair, number, Char.ofNat_toNat]

theorem decodeFrom_units (c : Char) (written : List Char) (rest : List UInt8) :
    decodeFrom order none written ((units c).flatMap order.bytes ++ rest) =
      decodeFrom order none (c :: written) rest := by
  unfold units
  split
  · rename_i basic
    rw [List.flatMap_singleton, decodeFrom_bytes basic, feed_basic basic]
    rfl
  · rename_i notBasic
    have astral : 0x10000 ≤ c.toNat := Nat.le_of_not_lt notBasic
    have scalar : c.toNat.isValidChar := c.valid
    unfold Nat.isValidChar at scalar
    have highSmall : (c.toNat - 0x10000) / 1024 < 1024 := by omega
    have lowSmall : (c.toNat - 0x10000) % 1024 < 1024 := Nat.mod_lt _ (by decide)
    rw [List.flatMap_cons, List.flatMap_singleton, List.append_assoc,
      decodeFrom_bytes (show 0xD800 + (c.toNat - 0x10000) / 1024 < 0x10000 by omega),
      feed_high highSmall,
      decodeFrom_bytes (show 0xDC00 + (c.toNat - 0x10000) % 1024 < 0x10000 by omega),
      feed_low lowSmall, pair_surrogates astral]
    rfl

theorem decodeFrom_encode (chars written : List Char) :
    decodeFrom order none written (chars.flatMap fun c => (units c).flatMap order.bytes) =
      written.reverse ++ chars := by
  induction chars generalizing written with
  | nil => exact congrArg (written.reverse ++ ·) rfl
  | cons c chars ih =>
      rw [List.flatMap_cons, decodeFrom_units, ih, List.reverse_cons, List.append_assoc,
        List.singleton_append]

theorem decode_encode (order : Order) (text : String) :
    decode order (encode order text) = text.toList :=
  decodeFrom_encode text.toList []

end LanguageDetection.Text.Utf16
