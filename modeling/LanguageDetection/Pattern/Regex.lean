import LanguageDetection.Pattern.Anchor

/-!
Regular expressions over bytes, with anchors and counted repetition, and the search for a match
anywhere in a byte string. The search follows the bytes from left to right and keeps the expressions
that remain to be matched; `Regex.remainders` says what remains after one byte, and `Regex.emptyAt`
whether nothing needs to remain at a place.
-/

namespace LanguageDetection.Pattern

structure ByteRange where
  first : UInt8
  last : UInt8
  deriving Repr, DecidableEq

def ByteRange.contains (range : ByteRange) (byte : UInt8) : Bool :=
  range.first ≤ byte && byte ≤ range.last

abbrev ByteSet := List ByteRange

def ByteSet.contains (set : ByteSet) (byte : UInt8) : Bool :=
  set.any (·.contains byte)

inductive Regex
  | empty
  | byte (set : ByteSet)
  | anchor (anchor : Anchor)
  | cat (left right : Regex)
  | alt (left right : Regex)
  /-- At least `least` copies, and at most `most` if there is a bound. -/
  | repeated (body : Regex) (least : Nat) (most : Option Nat)
  deriving Repr, DecidableEq

namespace Regex

def never : Regex := .byte []

/-- Concatenation that drops the empty string on its left. -/
def andThen : Regex → Regex → Regex
  | .empty, right => right
  | left, right => .cat left right

def emptyAt (before after : List UInt8) : Regex → Bool
  | .empty => true
  | .byte _ => false
  | .anchor a => a.holds before after
  | .cat left right => left.emptyAt before after && right.emptyAt before after
  | .alt left right => left.emptyAt before after || right.emptyAt before after
  | .repeated body least _ => least == 0 || body.emptyAt before after

def pred? : Option Nat → Option Nat
  | none => none
  | some n => some (n - 1)

/-- The expressions one of which has to match the rest after `byte` has been read at a place. A
repetition whose body matches the empty string there may skip copies, so nothing is required of the
copies that follow. -/
def remainders (before : List UInt8) (byte : UInt8) (rest : List UInt8) : Regex → List Regex
  | .empty => []
  | .byte set => if set.contains byte then [.empty] else []
  | .anchor _ => []
  | .cat left right =>
      let through := (left.remainders before byte rest).map (·.andThen right)
      if left.emptyAt before (byte :: rest) then through ++ right.remainders before byte rest
      else through
  | .alt left right => left.remainders before byte rest ++ right.remainders before byte rest
  | .repeated body least most =>
      if most == some 0 then []
      else
        let least := if body.emptyAt before (byte :: rest) then 0 else least - 1
        (body.remainders before byte rest).map (·.andThen (.repeated body least (pred? most)))

def canBeEmpty : Regex → Bool
  | .empty => true
  | .byte _ => false
  | .anchor _ => true
  | .cat left right => left.canBeEmpty && right.canBeEmpty
  | .alt left right => left.canBeEmpty || right.canBeEmpty
  | .repeated body least _ => least == 0 || body.canBeEmpty

/-- The bytes that a match could start with, whatever its anchors say. -/
def startSet : Regex → ByteSet
  | .empty => []
  | .byte set => set
  | .anchor _ => []
  | .cat left right => if left.canBeEmpty then left.startSet ++ right.startSet else left.startSet
  | .alt left right => left.startSet ++ right.startSet
  | .repeated body _ _ => body.startSet

def insertAll (known : List Regex) : List Regex → List Regex
  | [] => known
  | r :: rest => if known.contains r then insertAll known rest else insertAll (r :: known) rest

end Regex

structure Searcher where
  regex : Regex
  canBeEmpty : Bool
  starts : Array Bool
  deriving Repr

def ByteSet.table (set : ByteSet) : Array Bool :=
  Array.ofFn fun n : Fin 256 => ByteSet.contains set (UInt8.ofNat n)

def Searcher.ofRegex (regex : Regex) : Searcher :=
  ⟨regex, regex.canBeEmpty, regex.startSet.table⟩

namespace Searcher

def canStart (searcher : Searcher) (byte : UInt8) : Bool :=
  searcher.canBeEmpty || searcher.starts.getD byte.toNat true

/-- Whether one of `live` can be matched from this place on, or a match starts here or later. -/
def searchFrom (searcher : Searcher) (live : List Regex) (before : List UInt8) :
    List UInt8 → Bool
  | [] => (searcher.regex :: live).any (·.emptyAt before [])
  | byte :: rest =>
      match live, searcher.canStart byte with
      | [], false => searcher.searchFrom [] (byte :: before) rest
      | _, starts =>
          let threads := if starts then Regex.insertAll live [searcher.regex] else live
          if threads.any (·.emptyAt before (byte :: rest)) then true
          else
            let next := threads.foldl
              (fun known r => Regex.insertAll known (r.remainders before byte rest)) []
            searcher.searchFrom next (byte :: before) rest

/-- Whether the expression matches somewhere in a byte string. Where no match can start at all,
nothing needs to be followed. -/
def search (searcher : Searcher) (bytes : List UInt8) : Bool :=
  (searcher.canBeEmpty || bytes.any searcher.canStart) && searcher.searchFrom [] [] bytes

end Searcher

end LanguageDetection.Pattern
