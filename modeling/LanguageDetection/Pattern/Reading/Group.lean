import LanguageDetection.Pattern.Expression
import LanguageDetection.Pattern.Scanner
import LanguageDetection.Unicode.WordChar

namespace LanguageDetection.Pattern

open LanguageDetection.Text
open Scan

structure Sequence where
  start : Position
  reversed : List Expression
  deriving Repr

def Sequence.push (sequence : Sequence) (e : Expression) : Sequence :=
  { sequence with reversed := e :: sequence.reversed }

def Sequence.toExpression (sequence : Sequence) (stop : Position) : Expression :=
  match sequence.reversed with
  | [] => .empty ⟨sequence.start, stop⟩
  | [e] => e
  | reversed => .concat ⟨sequence.start, stop⟩ reversed.reverse

/-- What is open outside brackets: a group with the sequence around it and the mode outside, or the
branches before the last vertical bar. -/
inductive GroupFrame
  | group (around : Sequence) (span : Span) (kind : GroupKind) (isVerbose : Bool)
  | branches (start : Position) (reversed : List Expression)
  deriving Repr

def flag? : Char → Option Flag
  | 'i' => some .caseInsensitive
  | 'm' => some .multiLine
  | 's' => some .dotMatchesNewLine
  | 'U' => some .swapGreed
  | 'u' => some .unicode
  | 'R' => some .crlf
  | 'x' => some .verbose
  | _ => none

/-- The marks of a list of flags, up to the colon or parenthesis that ends it. `seen` holds the
marks with their spans, and `dangling` the span of a negation with nothing after it yet. -/
def readFlags : Nat → List (FlagMark × Span) → Option Span → Scan FlagMarks
  | 0, seen, _ => return (seen.map (·.1)).reverse
  | fuel + 1, seen, dangling => do
      match ← peek? with
      | none => fail .flagUnexpectedEnd (← here)
      | some c =>
          if c == ':' || c == ')' then
            match dangling with
            | some span => fail .flagDanglingNegation span
            | none => return (seen.map (·.1)).reverse
          else
            let span ← charSpan
            let mark ← match c, flag? c with
              | '-', _ => pure FlagMark.negation
              | _, some flag => pure (FlagMark.flag flag)
              | _, none => fail .flagUnrecognized span
            match seen.find? (·.1 = mark) with
            | some (_, earlier) =>
                let kind :=
                  if mark = .negation then FaultKind.flagRepeatedNegation else .flagDuplicate
                throw { kind, span, earlier := some earlier }
            | none =>
                if !(← bump) then fail .flagUnexpectedEnd (← here)
                readFlags fuel ((mark, span) :: seen) (if c == '-' then some span else none)

def isNameChar (isFirst : Bool) (c : Char) : Bool :=
  c == '_' || (if isFirst then Unicode.isAlphabetic c
    else c == '.' || c == '[' || c == ']' || Unicode.isAlphanumeric c)

def readGroupName : Nat → Bool → List Char → Scan String
  | 0, _, name => return String.ofList name.reverse
  | fuel + 1, isFirst, name => do
      match ← peek? with
      | none => fail .groupNameUnexpectedEnd (← here)
      | some '>' => return String.ofList name.reverse
      | some c =>
          if !isNameChar isFirst c then fail .groupNameInvalid (← charSpan)
          discard bump
          readGroupName fuel false (c :: name)

def readCaptureName : Scan Unit := do
  let start ← position
  let name ← readGroupName ((← get).rest.length + 1) true []
  let span : Span := ⟨start, ← position⟩
  discard bump
  if name.isEmpty then fail .groupNameEmpty (.at start)
  let s ← get
  match s.names.lookup name with
  | some earlier => throw { kind := .groupNameDuplicate, span, earlier := some earlier }
  | none => set { s with names := (name, span) :: s.names }

inductive Opening
  | flags (span : Span) (marks : FlagMarks)
  | group (span : Span) (kind : GroupKind)

def readOpening : Scan Opening := do
  let span ← charSpan
  discard bump
  bumpSpace
  if (← bumpIf ['?', '=']) || (← bumpIf ['?', '!']) || (← bumpIf ['?', '<', '='])
      || (← bumpIf ['?', '<', '!']) then
    fail .lookAround ⟨span.start, ← position⟩
  let inner ← here
  if (← bumpIf ['?', 'P', '<']) || (← bumpIf ['?', '<']) then
    readCaptureName
    return .group span .capture
  else if ← bumpIf ['?'] then
    if ← isEnd then fail .groupUnclosed span
    let marks ← readFlags ((← get).rest.length + 1) [] none
    let closes := (← peek?) == some ')'
    discard bump
    if closes then
      if marks.isEmpty then fail .repetitionMissing inner
      return .flags ⟨span.start, ← position⟩ marks
    else return .group span (.plain marks)
  else return .group span .capture

def openGroup (frames : List GroupFrame) (sequence : Sequence) :
    Scan (List GroupFrame × Sequence) := do
  match ← readOpening with
  | .flags span marks =>
      if let some isVerbose := marks.state? .verbose then setVerbose isVerbose
      return (frames, sequence.push (.flags span marks))
  | .group span kind =>
      let outside := (← get).isVerbose
      let inside := match kind with
        | .capture => outside
        | .plain marks => (marks.state? .verbose).getD outside
      setVerbose inside
      return (.group sequence span kind outside :: frames, ⟨← position, []⟩)

def endBranch (frames : List GroupFrame) (sequence : Sequence) :
    Scan (List GroupFrame × Sequence) := do
  let branch := sequence.toExpression (← position)
  discard bump
  let next : Sequence := ⟨← position, []⟩
  match frames with
  | .branches start reversed :: rest => return (.branches start (branch :: reversed) :: rest, next)
  | _ => return (.branches sequence.start [branch] :: frames, next)

def closeGroup (frames : List GroupFrame) (sequence : Sequence) :
    Scan (List GroupFrame × Sequence) := do
  let stop ← position
  let last := sequence.toExpression stop
  let finish (around : Sequence) (span : Span) (kind : GroupKind) (isVerbose : Bool)
      (frames : List GroupFrame) (body : Expression) : Scan (List GroupFrame × Sequence) := do
    setVerbose isVerbose
    discard bump
    return (frames, around.push (.group ⟨span.start, ← position⟩ kind body))
  match frames with
  | .group around span kind isVerbose :: rest => finish around span kind isVerbose rest last
  | .branches start reversed :: .group around span kind isVerbose :: rest =>
      finish around span kind isVerbose rest
        (.alternation ⟨start, stop⟩ (last :: reversed).reverse)
  | _ => fail .groupUnopened (← charSpan)

def closeText (frames : List GroupFrame) (sequence : Sequence) : Scan Expression := do
  let stop ← position
  let last := sequence.toExpression stop
  match frames with
  | [] => return last
  | .group _ span .. :: _ => fail .groupUnclosed span
  | .branches _ _ :: .group _ span .. :: _ => fail .groupUnclosed span
  | .branches start reversed :: _ =>
      return .alternation ⟨start, stop⟩ (last :: reversed).reverse

end LanguageDetection.Pattern
