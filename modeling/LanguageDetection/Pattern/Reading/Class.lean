import LanguageDetection.Pattern.Reading.Primitive

/-!
Reading bracketed classes. Open classes are kept on a stack, so that a fault at the end of the text
can name the innermost one.
-/

namespace LanguageDetection.Pattern

open LanguageDetection.Text
open Scan

structure Items where
  span : Span
  reversed : List ClassSet
  deriving Repr

def Items.push (items : Items) (item : ClassSet) : Items :=
  let start := if items.reversed.isEmpty then item.span.start else items.span.start
  ⟨⟨start, item.span.stop⟩, item :: items.reversed⟩

def Items.toClassSet (items : Items) : ClassSet :=
  match items.reversed with
  | [] => .empty items.span
  | [item] => item
  | reversed => .union items.span reversed.reverse

/-- What is open inside brackets: a class with the items of the one around it, or an operator that
waits for its right side. -/
inductive ClassFrame
  | opened (around : Items) (span : Span) (isNegated : Bool)
  | operator (operator : SetOperator) (left : ClassSet)
  deriving Repr

def combinePending (frames : List ClassFrame) (right : ClassSet) : ClassSet × List ClassFrame :=
  match frames with
  | .operator operator left :: rest =>
      (.combined ⟨left.span.start, right.span.stop⟩ operator left right, rest)
  | _ => (right, frames)

def failUnclosed : List ClassFrame → Scan α
  | .opened _ span _ :: _ => fail .classUnclosed span
  | _ :: rest => failUnclosed rest
  | [] => do fail .classUnclosed (← here)

def namedClass? (name : String) : Option NamedClass :=
  [("alnum", .alnum), ("alpha", .alpha), ("ascii", .ascii), ("blank", .blank), ("cntrl", .cntrl),
    ("digit", .digit), ("graph", .graph), ("lower", .lower), ("print", .print), ("punct", .punct),
    ("space", .space), ("upper", .upper), ("word", .word),
    ("xdigit", NamedClass.xdigit)].lookup name

def readNamedClass? : Scan (Option ClassSet) := do
  let s ← get
  match s.rest with
  | '[' :: ':' :: rest =>
      let (isNegated, rest) : Bool × List Char := match rest with
        | '^' :: rest => (true, rest)
        | _ => (false, rest)
      let name := rest.takeWhile (· != ':')
      match rest.drop name.length, namedClass? (String.ofList name) with
      | ':' :: ']' :: rest, some kind =>
          let read := s.rest.take (s.rest.length - rest.length)
          let position := read.foldl Position.after s.position
          set { s with rest, position }
          return some (.named ⟨s.position, position⟩ kind isNegated)
      | _, _ => return none
  | _ => return none

def readLeadingHyphens (start : Position) : Nat → Items → Scan Items
  | 0, items => return items
  | fuel + 1, items => do
      if (← peek?) == some '-' then
        let items := items.push (.literal ⟨← charSpan, '-', false⟩)
        if !(← bumpAll) then fail .classUnclosed (.at start)
        readLeadingHyphens start fuel items
      else return items

/-- The opening of a class; its bracket is the next character. A closing bracket that comes first
stands for itself. -/
def readClassOpening : Scan (Span × Bool × Items) := do
  let start ← position
  if !(← bumpAll) then fail .classUnclosed ⟨start, ← position⟩
  let isNegated := (← peek?) == some '^'
  if isNegated then
    if !(← bumpAll) then fail .classUnclosed ⟨start, ← position⟩
  let items ← readLeadingHyphens start ((← get).rest.length) ⟨← here, []⟩
  if items.reversed.isEmpty && (← peek?) == some ']' then
    let items := items.push (.literal ⟨← charSpan, ']', false⟩)
    if !(← bumpAll) then fail .classUnclosed ⟨start, ← position⟩
    return (⟨start, ← position⟩, isNegated, items)
  else return (⟨start, ← position⟩, isNegated, items)

def readClassPrimitive : Scan Primitive := do
  match ← peek? with
  | some '\\' => readEscape
  | some c =>
      let span ← charSpan
      discard bump
      return .literal ⟨span, c, false⟩
  | none => fail .classUnclosed (← here)

def readClassRange (frames : List ClassFrame) : Scan ClassSet := do
  let first ← readClassPrimitive
  bumpSpace
  if ← isEnd then failUnclosed frames
  let next ← peekSpace?
  if (← peek?) != some '-' || next == some ']' || next == some '-' then first.toClassSet
  else
    if !(← bumpAll) then failUnclosed frames
    let last ← readClassPrimitive
    let span : Span := ⟨first.span.start, last.span.stop⟩
    let first ← first.toLiteral
    let last ← last.toLiteral
    if last.char < first.char then fail .classRangeInvalid span
    return .range span first last

def setOperator? : List Char → Option SetOperator
  | '&' :: '&' :: _ => some .intersection
  | '-' :: '-' :: _ => some .difference
  | '~' :: '~' :: _ => some .symmetricDifference
  | _ => none

def readClassItems : Nat → List ClassFrame → Items → Scan Expression
  | 0, frames, _ => failUnclosed frames
  | fuel + 1, frames, items => do
      bumpSpace
      match ← peek? with
      | none => failUnclosed frames
      | some '[' =>
          match ← (if frames.isEmpty then return none else readNamedClass?) with
          | some named => readClassItems fuel frames (items.push named)
          | none =>
              let (span, isNegated, inner) ← readClassOpening
              readClassItems fuel (.opened items span isNegated :: frames) inner
      | some ']' =>
          let (body, frames) := combinePending frames items.toClassSet
          match frames with
          | .opened around span isNegated :: frames =>
              discard bump
              let span : Span := ⟨span.start, ← position⟩
              if frames.isEmpty then return .bracketed span isNegated body
              else readClassItems fuel frames (around.push (.bracketed span isNegated body))
          | _ => failUnclosed frames
      | some _ =>
          match setOperator? (← get).rest with
          | some operator =>
              discard bump
              discard bump
              let (left, frames) := combinePending frames items.toClassSet
              readClassItems fuel (.operator operator left :: frames) ⟨← here, []⟩
          | none => readClassItems fuel frames (items.push (← readClassRange frames))

def readClass : Scan Expression := do
  readClassItems ((← get).rest.length + 1) [] ⟨← here, []⟩

end LanguageDetection.Pattern
