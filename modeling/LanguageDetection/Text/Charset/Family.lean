import LanguageDetection.Text.Case

/-!
Families of languages that share code pages: their letters outside ASCII, and how often one letter
follows another in the language of the family that joins the two most.
-/

namespace LanguageDetection.Text.Charset

def smallLetter (c : Char) : Char :=
  match lowerChar c with
  | [small] => small
  | _ => c

def isAsciiSmall (c : Char) : Bool := 'a' ≤ c && c ≤ 'z'

structure Alphabet where
  isLatin : Bool
  letters : Array Char
  guests : List Char := []
  small : Char → Char := smallLetter

namespace Alphabet

/-- How many places come before the letters outside ASCII: place 0 is a blank, the next ones are
the ASCII letters, which only Latin alphabets tell apart. -/
def firstPlace (alphabet : Alphabet) : Nat := if alphabet.isLatin then 27 else 2

def placeCount (alphabet : Alphabet) : Nat := alphabet.firstPlace + alphabet.letters.size

def place? (alphabet : Alphabet) (c : Char) : Option Nat :=
  if isAsciiSmall c then some (if alphabet.isLatin then c.toNat - 96 else 1)
  else (alphabet.letters.idxOf? c).map (alphabet.firstPlace + ·)

def letter? (alphabet : Alphabet) (place : Nat) : Option Char :=
  if place < alphabet.firstPlace then none else alphabet.letters[place - alphabet.firstPlace]?

end Alphabet

structure Family where
  alphabet : Alphabet
  points : Array Int

def implausible : Int := -220

namespace Family

def pairPoints (family : Family) (former latter : Nat) : Int :=
  family.points.getD (former * family.alphabet.placeCount + latter) 0

/-- The points of the levels from A on, each about a sixth less than the one before. -/
def levels : List Int :=
  [254, 211, 176, 146, 122, 102, 85, 70, 59, 49, 41, 34, 28, 23, 19, 16, 13, 11, 9, 7, 6, 5, 4, 3,
    3]

def levelPoints (level : Char) : Int :=
  levels.getD (level.toNat - 'A'.toNat) 0

def latters : List Char → List (Char × Char)
  | latter :: level :: rest => (latter, level) :: latters rest
  | _ => []

def enterRow (alphabet : Alphabet) (points : Array Int) : List Char → Array Int
  | [] => points
  | former :: rest => (latters rest).foldl (fun points (latter, level) =>
      match place? former, place? latter with
      | some row, some column =>
          points.setIfInBounds (row * alphabet.placeCount + column) (levelPoints level)
      | _, _ => points) points
where
  place? (c : Char) : Option Nat := if c == '_' then some 0 else alphabet.place? c

def unlisted (alphabet : Alphabet) (neverMeet : Char → Char → Bool) : Array Int :=
  let count := alphabet.placeCount
  Array.ofFn fun cell : Fin (count * count) =>
    match alphabet.letter? (cell / count), alphabet.letter? (cell % count) with
    | some former, some latter => if neverMeet former latter then implausible else 0
    | _, _ => 0

/-- The family of an alphabet whose rows are the lines of a text: a letter, then those that follow
it, each with its level. -/
def ofRows (alphabet : Alphabet) (rows : String) (neverMeet : Char → Char → Bool) : Family :=
  { alphabet
    points := (rows.toList.splitOn '\n').foldl (enterRow alphabet) (unlisted alphabet neverMeet) }

def latin (letters rows : String) : Family :=
  ofRows { isLatin := true, letters := letters.toList.toArray } rows fun _ _ => false

def nonLatin (letters rows : String) (neverMeet : Char → Char → Bool) : Family :=
  ofRows { isLatin := false, letters := letters.toList.toArray } rows neverMeet

end Family

def haveNoCommon (alphabets : List String) (former latter : Char) : Bool :=
  !alphabets.any fun alphabet => alphabet.contains former && alphabet.contains latter

end LanguageDetection.Text.Charset
