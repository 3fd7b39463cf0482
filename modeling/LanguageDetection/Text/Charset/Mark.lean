import LanguageDetection.Text.Charset.Basic
import LanguageDetection.Text.Charset.Family

namespace LanguageDetection.Text.Charset

open LanguageDetection.Unicode

inductive Sign
  /-- A blank, a control, or punctuation that is written next to words. -/
  | blank
  | digit
  | letter (place : Nat) (isCapital : Bool)
  | stranger (isCapital : Bool)
  | symbol
  deriving Repr, DecidableEq

namespace Sign

def place? : Sign → Option Nat
  | .blank => some 0
  | .letter place _ => some place
  | _ => none

def capital? : Sign → Option Bool
  | .letter _ isCapital => some isCapital
  | .stranger isCapital => some isCapital
  | _ => none

def isAsciiLetter : Sign → Bool
  | .letter place _ => place == 1
  | _ => false

def isNative : Sign → Bool
  | .letter place _ => 1 < place
  | _ => false

end Sign

def wordPunctuation : List Char :=
  "\u00a0\u00ad‘’‚“”„‹›«»–—―…•·¿¡΄€،\u061b\u061f\u200c\u200d\u200e\u200f".toList

def Alphabet.sign (alphabet : Alphabet) (c : Char) : Sign :=
  let small := alphabet.small c
  match alphabet.place? small with
  | some place => .letter place (small != c)
  | none =>
      if alphabet.guests.contains small then .letter 1 (small != c)
      else if isDecimalDigit c then .digit
      else if c.toNat < 0x80 || wordPunctuation.contains c then .blank
      else if isWordChar c then .stranger (small != c)
      else .symbol

structure Mark where
  byte : UInt8
  sign : Sign
  deriving Repr, DecidableEq

namespace Mark

def edge : Mark := ⟨0x20, .blank⟩

def isAscii (mark : Mark) : Bool := mark.byte < 0x80

def isPlain (mark : Mark) : Bool := mark.isAscii || mark.sign == .blank

end Mark

structure Usage where
  codePage : CodePage
  family : Family
  marks : Array (Option Mark)

namespace Usage

def markOf (codePage : CodePage) (alphabet : Alphabet) (byte : UInt8) : Option Mark :=
  let c? := if byte < 0x80 then some (Char.ofNat byte.toNat) else codePage.char? byte
  c?.map fun c => ⟨byte, alphabet.sign c⟩

def of (codePage : CodePage) (family : Family) : Usage where
  codePage
  family
  marks := Array.ofFn fun byte : Fin 256 => markOf codePage family.alphabet (UInt8.ofNat byte)

def mark? (usage : Usage) (byte : UInt8) : Option Mark :=
  usage.marks.getD byte.toNat none

def marks? (usage : Usage) (bytes : List UInt8) : Option (List Mark) :=
  bytes.mapM usage.mark?

end Usage

def foldNeighboursFrom {α : Type} (step : α → Mark → Mark → α) (state : α) (former : Mark) :
    List Mark → α
  | [] => step state former Mark.edge
  | latter :: rest => foldNeighboursFrom step (step state former latter) latter rest

def foldNeighbours {α : Type} (step : α → Mark → Mark → α) (state : α) (marks : List Mark) : α :=
  foldNeighboursFrom step state Mark.edge marks

def neighbourPoints (points : Mark → Mark → Int) (marks : List Mark) : Int :=
  foldNeighbours (fun total former latter => total + points former latter) 0 marks

def neighbourCount (isSuch : Mark → Mark → Bool) (marks : List Mark) : Nat :=
  foldNeighbours (fun count former latter => if isSuch former latter then count + 1 else count)
    0 marks

def Family.signPoints (family : Family) : Sign → Sign → Int
  | .symbol, .letter place _ => besideSymbol place
  | .letter place _, .symbol => besideSymbol place
  | former, latter => match former.place?, latter.place? with
    | some former, some latter => family.pairPoints former latter
    | _, _ => 0
where
  besideSymbol (place : Nat) : Int :=
    if family.alphabet.isLatin || 1 < place then implausible else 0

def Family.markPoints (family : Family) (former latter : Mark) : Int :=
  if former.isPlain && latter.isPlain then 0 else family.signPoints former.sign latter.sign

/-- The points for a capital after small letters of a word, or a small letter after capitals. -/
def strangeCase : Int := -180

inductive CaseRun
  | none
  | small
  | initial
  | capitals
  deriving Repr, DecidableEq

/-- The run after a letter, and whether its case is strange there. -/
def CaseRun.after : CaseRun → Bool → CaseRun × Bool
  | .none, false => (.small, false)
  | .small, false => (.small, false)
  | .initial, false => (.small, false)
  | .capitals, false => (.small, true)
  | .none, true => (.initial, false)
  | .initial, true => (.capitals, false)
  | .capitals, true => (.capitals, false)
  | .small, true => (.initial, true)

def casePoints (capital? : Sign → Option Bool) (marks : List Mark) : Int :=
  (foldNeighbours (fun (run, points) former latter =>
    match capital? latter.sign with
    | none => (CaseRun.none, points)
    | some isCapital =>
        let (run, isStrange) := CaseRun.after run isCapital
        (run, if isStrange && !(former.isAscii && latter.isAscii) then points + strangeCase
          else points)) (CaseRun.none, (0 : Int)) marks).2

end LanguageDetection.Text.Charset
