import LanguageDetection.Pattern.Reading.Class
import LanguageDetection.Pattern.Reading.Group

namespace LanguageDetection.Pattern

open LanguageDetection.Text
open Scan

def popRepeated (sequence : Sequence) : Scan (Expression × Sequence) := do
  match sequence.reversed with
  | [] => fail .repetitionMissing (← here)
  | .empty _ :: _ => fail .repetitionMissing (← here)
  | .flags _ _ :: _ => fail .repetitionMissing (← here)
  | e :: rest => return (e, { sequence with reversed := rest })

def readRepetition (sequence : Sequence) (least : Nat) (most : Option Nat) : Scan Sequence := do
  let (body, sequence) ← popRepeated sequence
  if ← bump then
    if (← peek?) == some '?' then discard bump
  return sequence.push (.repetition ⟨body.span.start, ← position⟩ least most body)

/-- White space, whether the mode is verbose or not. -/
def skipWhiteSpace : Scan Unit :=
  modify fun s =>
    let blank := s.rest.takeWhile isBlank
    { s with rest := s.rest.drop blank.length, position := blank.foldl Position.after s.position }

def readDecimal : Scan (Except Fault Nat) := do
  skipWhiteSpace
  let start ← position
  let digits ← takeSpaced Char.isDigit
  let span : Span := ⟨start, ← position⟩
  skipWhiteSpace
  if digits.isEmpty then return .error { kind := .repetitionCountDecimalEmpty, span }
  let n := digits.foldl (fun n c => min (n * 10 + (c.toNat - 48)) UInt32.size) 0
  if n < UInt32.size then return .ok n else return .error { kind := .decimalInvalid, span }

/-- The bounds between the braces of a counted repetition, up to the closing brace. -/
def readBounds (start : Position) : Scan (Nat × Option Nat) := do
  let unclosed : Scan Unit := do fail .repetitionCountUnclosed ⟨start, ← position⟩
  let least ← readDecimal
  if ← isEnd then unclosed
  if (← peek?) == some ',' then
    if !(← bumpAll) then unclosed
    if (← peek?) != some '}' then
      let least ← liftM least
      let most ← liftM (← readDecimal)
      return (least, some most)
    else
      let least ← liftM least
      return (least, none)
  else
    let least ← liftM least
    return (least, some least)

def readCountedRepetition (sequence : Sequence) : Scan Sequence := do
  let start ← position
  let (body, sequence) ← popRepeated sequence
  if !(← bumpAll) then fail .repetitionCountUnclosed ⟨start, ← position⟩
  let (least, most) ← readBounds start
  if (← peek?) != some '}' then fail .repetitionCountUnclosed ⟨start, ← position⟩
  if ← bumpAll then
    if (← peek?) == some '?' then discard bump
  if most.any (· < least) then fail .repetitionCountInvalid ⟨start, ← position⟩
  return sequence.push (.repetition ⟨body.span.start, ← position⟩ least most body)

def readItems : Nat → List GroupFrame → Sequence → Scan Expression
  | 0, frames, sequence => closeText frames sequence
  | fuel + 1, frames, sequence => do
      bumpSpace
      match ← peek? with
      | none => closeText frames sequence
      | some '(' =>
          let (frames, sequence) ← openGroup frames sequence
          readItems fuel frames sequence
      | some ')' =>
          let (frames, sequence) ← closeGroup frames sequence
          readItems fuel frames sequence
      | some '|' =>
          let (frames, sequence) ← endBranch frames sequence
          readItems fuel frames sequence
      | some '[' => readItems fuel frames (sequence.push (← readClass))
      | some '?' => readItems fuel frames (← readRepetition sequence 0 (some 1))
      | some '*' => readItems fuel frames (← readRepetition sequence 0 none)
      | some '+' => readItems fuel frames (← readRepetition sequence 1 none)
      | some '{' => readItems fuel frames (← readCountedRepetition sequence)
      | some c => readItems fuel frames (sequence.push (← readPrimitive c).toExpression)

def Expression.ofChars (chars : List Char) : Except Fault Expression :=
  (readItems (chars.length + 1) [] ⟨.start, []⟩ |>.run (Scanner.ofText chars)).map (·.1)

end LanguageDetection.Pattern
