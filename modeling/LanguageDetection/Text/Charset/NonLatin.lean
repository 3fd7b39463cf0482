import LanguageDetection.Text.Charset.Mark

/-!
How plausible a text in letters other than Latin ones is. Words of ASCII letters may stand among the
others, but not in touch with them.
-/

namespace LanguageDetection.Text.Charset

structure Habits where
  capitals? : Option Int := none
  /-- The byte of a letter that is a blank in most other pages. -/
  blankElsewhere? : Option UInt8 := none

inductive CasedWord
  | none
  | small
  | initial
  | title
  | capitals
  | mixed
  deriving Repr, DecidableEq

namespace CasedWord

def after (isCapital : Bool) : CasedWord → CasedWord
  | .none => if isCapital then .initial else .small
  | .small => if isCapital then .mixed else .small
  | .initial => if isCapital then .capitals else .title
  | .title => if isCapital then .mixed else .title
  | .capitals => if isCapital then .capitals else .mixed
  | .mixed => .mixed

def points (capitals : Int) (run : Nat) : CasedWord → Int
  | .title => 40
  | .capitals => capitals
  | .mixed => -20 * run
  | _ => 0

end CasedWord

def casedPoints (capitals : Int) (marks : List Mark) : Int :=
  (foldNeighbours (fun (word, run, points) _ mark =>
    match mark.sign with
    | .letter place isCapital =>
        if place == 1 then (.mixed, 0, points)
        else (CasedWord.after isCapital word, run + 1, points)
    | _ => (.none, 0, points + word.points capitals run))
    (CasedWord.none, 0, (0 : Int)) marks).2.2

def mixturePoints (former latter : Mark) : Int :=
  if (former.sign.isAsciiLetter && latter.sign.isNative)
      || (former.sign.isNative && latter.sign.isAsciiLetter) then -50
  else 0

def hasWord (marks : List Mark) : Bool :=
  0 < neighbourCount (fun former latter => former.sign.isNative && latter.sign.isNative) marks

namespace Habits

/-- Whether a byte is probably a blank that is read as a letter. -/
def isDoubtfulBlank (habits : Habits) (former latter : Mark) : Bool :=
  match habits.blankElsewhere? with
  | none => false
  | some byte =>
      (latter.byte == byte && (former.byte == byte || former.sign == .blank))
        || (former.byte == byte && latter.sign == .blank)

def markPoints (habits : Habits) (family : Family) (former latter : Mark) : Int :=
  if habits.isDoubtfulBlank former latter then 0 else family.markPoints former latter

end Habits

/-- Where words in ASCII have other letters too: whether a letter of them is a capital. -/
def guestCapital? (alphabet : Alphabet) : Sign → Option Bool
  | .letter place isCapital =>
      if place == 1 && !alphabet.guests.isEmpty then some isCapital else none
  | _ => none

def nonLatinPoints? (family : Family) (habits : Habits) (marks : List Mark) : Option Int :=
  if hasWord marks then
    some (neighbourPoints (habits.markPoints family) marks
      + neighbourPoints mixturePoints marks
      + casePoints (guestCapital? family.alphabet) marks
      + match habits.capitals? with
        | some capitals => casedPoints capitals marks
        | none => 0)
  else none

def isSentencePunctuation (mark : Mark) : Bool :=
  ".,:;?!".toList.any fun c => mark.byte == c.toUInt8

def punctuationAfterWords (marks : List Mark) : Nat :=
  neighbourCount (fun former latter => former.sign.isNative && isSentencePunctuation latter) marks

def punctuationBeforeWords (marks : List Mark) : Nat :=
  neighbourCount (fun former latter => isSentencePunctuation former && latter.sign.isNative) marks

end LanguageDetection.Text.Charset
