import LanguageDetection.Text.Charset.Mark

namespace LanguageDetection.Text.Charset

/-- The points for a byte after a number of bytes outside ASCII: words with more than three of them
in a row are rare. -/
def crowd : Nat → Int
  | 0 | 1 | 2 => 0
  | 3 => -5
  | 4 => -20
  | _ => -200

def crowdPoints (marks : List Mark) : Int :=
  (foldNeighbours (fun (run, points) _ mark =>
    (if mark.isAscii then 0 else run + 1, points + crowd run)) (0, (0 : Int)) marks).2

inductive Ordinal
  | elsewhere
  | start
  | title
  | capitalN
  | smallN
  | abbreviated
  | digits
  | roman
  | copyright
  /-- After an ordinal sign that a blank has to follow, and maybe digits can. The points for the
  sign next to a letter are given back. -/
  | ordinal (mayDigitsFollow wasBesideLetter : Bool)
  deriving Repr, DecidableEq

namespace Ordinal

def ordinalPoints : Int := 300

def copyrightPoints : Int := 222

def feminineSign : UInt8 := 0xAA

def masculineSign : UInt8 := 0xBA

def copyrightSign : UInt8 := 0xA9

def isRoman : Sign → Bool
  | .letter place _ => place == 9 || place == 22 || place == 24
  | _ => false

def restart (mark : Mark) : Ordinal := if mark.sign == .blank then .start else .elsewhere

def first (mark : Mark) : Ordinal :=
  if mark.sign == .blank then .start
  else if mark.byte == feminineSign || mark.byte == masculineSign then .ordinal false false
  else if mark.byte == 'M'.toUInt8 || mark.byte == 'D'.toUInt8 || mark.byte == 'S'.toUInt8 then
    .title
  else if mark.byte == 'N'.toUInt8 then .capitalN
  else if mark.byte == 'n'.toUInt8 then .smallN
  else if mark.sign == .digit then .digits
  else if isRoman mark.sign then .roman
  else if mark.byte == copyrightSign then .copyright
  else .elsewhere

def next (ordinal : Ordinal) (mark : Mark) : Ordinal :=
  let isFeminine := mark.byte == feminineSign
  let isMasculine := mark.byte == masculineSign
  match ordinal with
  | .start => first mark
  | .title => if isFeminine then .ordinal false true else restart mark
  | .capitalN =>
      if isFeminine then .ordinal false true
      else if isMasculine then .ordinal true true
      else if mark.byte == '.'.toUInt8 then .abbreviated
      else restart mark
  | .smallN =>
      if isMasculine then .ordinal true true
      else if mark.byte == '.'.toUInt8 then .abbreviated
      else restart mark
  | .abbreviated => if isMasculine then .ordinal true false else restart mark
  | .digits =>
      if isFeminine || isMasculine then .ordinal false false
      else if mark.sign == .digit then .digits
      else restart mark
  | .roman =>
      if isFeminine || isMasculine then .ordinal false true
      else if isRoman mark.sign then .roman
      else restart mark
  | .elsewhere | .copyright | .ordinal _ _ => restart mark

def points (ordinal : Ordinal) (mark : Mark) : Int :=
  match ordinal with
  | .copyright => if mark.sign == .blank then copyrightPoints else 0
  | .ordinal mayDigitsFollow wasBesideLetter =>
      if mark.sign == .blank || (mayDigitsFollow && mark.sign == .digit) then
        ordinalPoints - (if wasBesideLetter then implausible else 0)
      else 0
  | _ => 0

end Ordinal

def ordinalPoints (marks : List Mark) : Int :=
  (foldNeighbours (fun (ordinal, points) _ mark =>
    (Ordinal.next ordinal mark, points + ordinal.points mark))
    (Ordinal.start, (0 : Int)) marks).2

def latinPoints (family : Family) (marks : List Mark) : Int :=
  neighbourPoints family.markPoints marks + crowdPoints marks + casePoints Sign.capital? marks

end LanguageDetection.Text.Charset
