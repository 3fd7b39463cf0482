import LanguageDetection.Pattern.Expression
import LanguageDetection.Pattern.Scanner

namespace LanguageDetection.Pattern

open LanguageDetection.Text
open Scan

inductive Primitive
  | literal (literal : Literal)
  | assertion (span : Span) (kind : AssertionKind)
  | dot (span : Span)
  | letterClass (span : Span) (kind : LetterClass) (isNegated : Bool)
  | unicodeClass (cls : UnicodeClass)
  deriving Repr

namespace Primitive

def span : Primitive → Span
  | .literal l => l.span
  | .assertion span _ => span
  | .dot span => span
  | .letterClass span .. => span
  | .unicodeClass cls => cls.span

def toExpression : Primitive → Expression
  | .literal l => .literal l
  | .assertion span kind => .assertion span kind
  | .dot span => .dot span
  | .letterClass span kind isNegated => .letterClass span kind isNegated
  | .unicodeClass cls => .unicodeClass cls

def toClassSet : Primitive → Scan ClassSet
  | .literal l => return .literal l
  | .letterClass span kind isNegated => return .letter span kind isNegated
  | .unicodeClass cls => return .unicode cls
  | p => fail .classEscapeInvalid p.span

def toLiteral : Primitive → Scan Literal
  | .literal l => return l
  | p => fail .classRangeLiteral p.span

end Primitive

def isEscapable (c : Char) : Bool :=
  c.toNat < 0x80 && !c.isAlphanum && c != '<' && c != '>'

def isHexDigit (c : Char) : Bool :=
  c.isDigit || ('a' ≤ c && c ≤ 'f') || ('A' ≤ c && c ≤ 'F')

def hexValue (c : Char) : Nat :=
  if c.isDigit then c.toNat - 48
  else if 'a' ≤ c then c.toNat - 87
  else c.toNat - 55

def hexChar? (digits : List Char) : Option Char :=
  let n := digits.foldl (fun n c => min (n * 16 + hexValue c) 0x110000) 0
  if n.isValidChar then some (Char.ofNat n) else none

def readHexFixed (start : Position) : Nat → Bool → List Char → Scan (List Char)
  | 0, _, digits => return digits.reverse
  | count + 1, isFirst, digits => do
      if !isFirst then
        if !(← bumpAll) then fail .escapeUnexpectedEnd (← here)
      match ← peek? with
      | none => fail .escapeUnexpectedEnd (← here)
      | some c =>
          if isHexDigit c then readHexFixed start count false (c :: digits)
          else fail .hexInvalidDigit (← charSpan)

def readHexBraced (opening : Position) : Scan Char := do
  let start := (← charSpan).stop
  discard bumpAll
  let digits ← takeSpaced isHexDigit
  match ← peek? with
  | none => fail .escapeUnexpectedEnd ⟨opening, ← position⟩
  | some c =>
      if c != '}' then fail .hexInvalidDigit (← charSpan)
      let stop ← position
      discard bumpAll
      if digits.isEmpty then fail .hexEmpty ⟨opening, ← position⟩
      match hexChar? digits with
      | none => fail .hexNotScalar ⟨start, stop⟩
      | some c => return c

def readHex (backslash : Position) (letter : Char) : Scan Literal := do
  if !(← bumpAll) then fail .escapeUnexpectedEnd (← here)
  if (← peek?) == some '{' then
    let c ← readHexBraced (← position)
    return ⟨⟨backslash, ← position⟩, c, false⟩
  else
    let start ← position
    let count := if letter == 'x' then 2 else if letter == 'u' then 4 else 8
    let digits ← readHexFixed start count true []
    discard bumpAll
    let stop ← position
    match hexChar? digits with
    | none => fail .hexNotScalar ⟨start, stop⟩
    | some c => return ⟨⟨backslash, stop⟩, c, letter == 'x'⟩

/-- A name and a value, divided at the first of the signs between them. An unequal sign is looked
for first, then a colon, then an equal sign. -/
def divideName (chars : List Char) : UnicodeName :=
  match unequal [] chars with
  | some (name, value) => .valued false name value
  | none => match divided ':' [] chars with
    | some (name, value) => .valued true name value
    | none => match divided '=' [] chars with
      | some (name, value) => .valued true name value
      | none => .single (String.ofList chars)
where
  unequal (before : List Char) : List Char → Option (String × String)
    | '!' :: '=' :: rest => some (String.ofList before.reverse, String.ofList rest)
    | c :: rest => unequal (c :: before) rest
    | [] => none
  divided (sign : Char) (before : List Char) : List Char → Option (String × String)
    | [] => none
    | c :: rest =>
        if c == sign then some (String.ofList before.reverse, String.ofList rest)
        else divided sign (c :: before) rest

def readUnicodeClass (backslash : Position) (isNegated : Bool) : Scan UnicodeClass := do
  if !(← bumpAll) then fail .escapeUnexpectedEnd (← here)
  match ← peek? with
  | some '{' =>
      discard bumpAll
      let name ← takeSpaced (· != '}')
      if ← isEnd then fail .escapeUnexpectedEnd (← here)
      discard bump
      return ⟨⟨backslash, ← position⟩, isNegated, divideName name⟩
  | some '\\' => fail .unicodeClassInvalid (← charSpan)
  | some c =>
      discard bumpAll
      return ⟨⟨backslash, ← position⟩, isNegated, .single c.toString⟩
  | none => fail .escapeUnexpectedEnd (← here)

def wordBoundaryNamed? (name : String) : Option AssertionKind :=
  if name == "start" then some .wordStart
  else if name == "end" then some .wordEnd
  else if name == "start-half" then some .wordStartHalf
  else if name == "end-half" then some .wordEndHalf
  else none

/-- The name in braces after a word boundary, if there is one; the opening brace is the next
character. Braces that start with anything but a letter or a hyphen are left to be read as a
repetition. -/
def readWordBoundaryName (backslash : Position) : Scan (Option AssertionKind) := do
  let before ← get
  if !(← bumpAll) then fail .wordBoundaryOrRepetitionUnexpectedEnd ⟨backslash, ← position⟩
  let first ← position
  let isNameChar (c : Char) : Bool := c.isAlpha || c == '-'
  if !((← peek?).any isNameChar) then
    set before
    return none
  let name ← takeSpaced isNameChar
  if (← peek?) != some '}' then fail .wordBoundaryUnclosed ⟨before.position, ← position⟩
  let stop ← position
  discard bump
  match wordBoundaryNamed? (String.ofList name) with
  | some kind => return some kind
  | none => fail .wordBoundaryUnrecognized ⟨first, stop⟩

def namedControl? : Char → Option Char
  | 'a' => some '\x07'
  | 'f' => some '\x0c'
  | 't' => some '\t'
  | 'n' => some '\n'
  | 'r' => some '\r'
  | 'v' => some '\x0b'
  | _ => none

def letterAssertion? : Char → Option AssertionKind
  | 'A' => some .startText
  | 'z' => some .endText
  | 'B' => some .notWordBoundary
  | '<' => some .wordStart
  | '>' => some .wordEnd
  | _ => none

def letterClass? : Char → Option (LetterClass × Bool)
  | 'd' => some (.digit, false)
  | 'D' => some (.digit, true)
  | 's' => some (.space, false)
  | 'S' => some (.space, true)
  | 'w' => some (.word, false)
  | 'W' => some (.word, true)
  | _ => none

def readEscape : Scan Primitive := do
  let start ← position
  if !(← bump) then fail .escapeUnexpectedEnd ⟨start, ← position⟩
  match ← peek? with
  | none => fail .escapeUnexpectedEnd ⟨start, ← position⟩
  | some c =>
      if c.isDigit then fail .backreference ⟨start, (← charSpan).stop⟩
      if c == 'x' || c == 'u' || c == 'U' then return .literal (← readHex start c)
      if c == 'p' || c == 'P' then return .unicodeClass (← readUnicodeClass start (c == 'P'))
      discard bump
      let span : Span := ⟨start, ← position⟩
      if let some (kind, isNegated) := letterClass? c then
        return .letterClass span kind isNegated
      if isEscapable c then return .literal ⟨span, c, false⟩
      if let some char := namedControl? c then return .literal ⟨span, char, false⟩
      if let some kind := letterAssertion? c then return .assertion span kind
      if c != 'b' then fail .escapeUnrecognized span
      if (← peek?) == some '{' then
        if let some kind ← readWordBoundaryName start then
          return .assertion ⟨start, ← position⟩ kind
      return .assertion span .wordBoundary

def readPrimitive (c : Char) : Scan Primitive := do
  if c == '\\' then readEscape
  else
    let span ← charSpan
    discard bump
    if c == '.' then return .dot span
    else if c == '^' then return .assertion span .startLine
    else if c == '$' then return .assertion span .endLine
    else return .literal ⟨span, c, false⟩

end LanguageDetection.Pattern
