import LanguageDetection.Pattern.Expression
import LanguageDetection.Pattern.Fault
import LanguageDetection.Pattern.Regex
import LanguageDetection.Unicode.Folding
import LanguageDetection.Unicode.Property

/-!
Patterns with their flags applied. Flags decide what a class, a dot or an assertion stands for;
after that each part stands for itself.
-/

namespace LanguageDetection.Pattern

open LanguageDetection.Unicode

structure Mode where
  caseInsensitive : Bool
  multiLine : Bool
  dotMatchesNewLine : Bool
  unicode : Bool
  crlf : Bool
  deriving Repr, DecidableEq

/-- The mode a pattern starts in: letters match in either case, and classes know ASCII only. -/
def Mode.initial : Mode := ⟨true, false, false, false, false⟩

def Mode.apply (mode : Mode) (marks : FlagMarks) : Mode where
  caseInsensitive := (marks.state? .caseInsensitive).getD mode.caseInsensitive
  multiLine := (marks.state? .multiLine).getD mode.multiLine
  dotMatchesNewLine := (marks.state? .dotMatchesNewLine).getD mode.dotMatchesNewLine
  unicode := (marks.state? .unicode).getD mode.unicode
  crlf := (marks.state? .crlf).getD mode.crlf

inductive Resolved
  | empty
  | byte (byte : UInt8)
  | char (char : Char)
  | byteClass (set : Intervals)
  | charClass (set : Intervals)
  | anchor (anchor : Anchor)
  | captured (body : Resolved)
  | repeated (body : Resolved) (least : Nat) (most : Option Nat)
  | cat (left right : Resolved)
  | alt (left right : Resolved)
  deriving Repr

def LetterClass.toNamed : LetterClass → NamedClass
  | .digit => .digit
  | .space => .space
  | .word => .word

private def span (first last : Char) : Interval := ⟨first.toNat, last.toNat⟩
private def only (c : Char) : Interval := ⟨c.toNat, c.toNat⟩

def NamedClass.asciiSet : NamedClass → Intervals
  | .alnum => [span '0' '9', span 'A' 'Z', span 'a' 'z']
  | .alpha => [span 'A' 'Z', span 'a' 'z']
  | .ascii => [⟨0, 0x7F⟩]
  | .blank => [only '\t', only ' ']
  | .cntrl => [⟨0, 0x1F⟩, ⟨0x7F, 0x7F⟩]
  | .digit => [span '0' '9']
  | .graph => [span '!' '~']
  | .lower => [span 'a' 'z']
  | .print => [span ' ' '~']
  | .punct => [span '!' '/', span ':' '@', span '[' (Char.ofNat 0x60), ⟨0x7B, 0x7E⟩]
  | .space => [⟨0x09, 0x0D⟩, only ' ']
  | .upper => [span 'A' 'Z']
  | .word => [span '0' '9', span 'A' 'Z', only '_', span 'a' 'z']
  | .xdigit => [span '0' '9', span 'A' 'F', span 'a' 'f']

def LetterClass.unicodeSet : LetterClass → Intervals
  | .digit => decimalDigits.toList
  | .space => ((Row.find? Table.properties "whitespace").getD [])
  | .word => wordChars.toList

def asciiFoldClosure (set : Intervals) : Intervals :=
  let shifted (source target : Nat) : Intervals := set.filterMap fun i =>
    let first := max i.first source
    let last := min i.last (source + 25)
    if first ≤ last then some ⟨first - source + target, last - source + target⟩ else none
  Intervals.canonical (set ++ shifted 0x41 0x61 ++ shifted 0x61 0x41)

def Mode.lastMember (mode : Mode) : Nat :=
  if mode.unicode then lastCodePoint else 0xFF

def Mode.fold (mode : Mode) (set : Intervals) : Intervals :=
  if !mode.caseInsensitive then set
  else if mode.unicode then foldClosure set else asciiFoldClosure set

def Mode.negateIf (mode : Mode) (isNegated : Bool) (set : Intervals) : Intervals :=
  if isNegated then Intervals.complement mode.lastMember set else Intervals.canonical set

/-- The number that a literal adds to a class. Without Unicode a class holds bytes. -/
def Mode.member (mode : Mode) (l : Literal) : Except Fault Nat :=
  if mode.unicode || l.char.toNat < 0x80 || l.isByte then .ok l.char.toNat
  else .error { kind := .unicodeNotAllowed, span := l.span }

def Mode.letterSet (mode : Mode) (kind : LetterClass) (isNegated : Bool) : Intervals :=
  mode.negateIf isNegated (if mode.unicode then kind.unicodeSet else kind.toNamed.asciiSet)

def Mode.unicodeSet (mode : Mode) (cls : UnicodeClass) : Except Fault Intervals :=
  if !mode.unicode then .error { kind := .unicodeNotAllowed, span := cls.span }
  else
    let (found, differs) : Except PropertyFault Intervals × Bool := match cls.name with
      | .single name => (namedSet name, false)
      | .valued isEqual name value => (valuedSet name value, !isEqual)
    match found with
    | .error .propertyNotFound => .error { kind := .unicodePropertyNotFound, span := cls.span }
    | .error .valueNotFound => .error { kind := .unicodePropertyValueNotFound, span := cls.span }
    | .ok set => .ok (mode.negateIf (cls.isNegated != differs) (mode.fold set))

def SetOperator.apply (operator : SetOperator) (last : Nat) (left right : Intervals) : Intervals :=
  match operator with
  | .intersection => Intervals.intersection left right
  | .difference => Intervals.difference last left right
  | .symmetricDifference => Intervals.symmetricDifference last left right

mutual
def ClassSet.resolve (mode : Mode) : ClassSet → Except Fault Intervals
  | .empty _ => .ok []
  | .literal l => do
      let n ← mode.member l
      return [⟨n, n⟩]
  | .range _ first last => do
      let first ← mode.member first
      let last ← mode.member last
      return [⟨first, last⟩]
  | .named _ kind isNegated => .ok (mode.negateIf isNegated (mode.fold kind.asciiSet))
  | .letter _ kind isNegated => .ok (mode.letterSet kind isNegated)
  | .unicode cls => mode.unicodeSet cls
  | .bracketed _ isNegated body => do
      let set ← body.resolve mode
      return mode.negateIf isNegated (mode.fold set)
  | .union _ items => resolveAll mode items
  | .combined _ operator left right => do
      let left ← left.resolve mode
      let right ← right.resolve mode
      return operator.apply mode.lastMember (mode.fold left) (mode.fold right)

def ClassSet.resolveAll (mode : Mode) : List ClassSet → Except Fault Intervals
  | [] => .ok []
  | item :: rest => do
      let set ← item.resolve mode
      let others ← resolveAll mode rest
      return set ++ others
end

def Mode.classOf (mode : Mode) (set : Intervals) : Resolved :=
  if mode.unicode then .charClass set else .byteClass set

/-- What a literal stands for. Where case makes no difference it stands for every character that
differs in case only. -/
def Mode.literal (mode : Mode) (l : Literal) : Resolved :=
  if !mode.unicode && l.isByte && 0x80 ≤ l.char.toNat then .byte (UInt8.ofNat l.char.toNat)
  else if !mode.caseInsensitive then .char l.char
  else if mode.unicode then
    let set := foldClosure [⟨l.char.toNat, l.char.toNat⟩]
    if set == [⟨l.char.toNat, l.char.toNat⟩] then .char l.char else .charClass set
  else if l.char.isAlpha then .byteClass (asciiFoldClosure [⟨l.char.toNat, l.char.toNat⟩])
  else .char l.char

def Mode.dot (mode : Mode) : Resolved :=
  let excluded : Intervals :=
    if mode.dotMatchesNewLine then []
    else if mode.crlf then [⟨0x0A, 0x0A⟩, ⟨0x0D, 0x0D⟩]
    else [⟨0x0A, 0x0A⟩]
  mode.classOf (Intervals.complement mode.lastMember excluded)

def Mode.alphabet (mode : Mode) : Alphabet :=
  if mode.unicode then .unicode else .ascii

def Mode.assertion (mode : Mode) : AssertionKind → Anchor
  | .startLine =>
      if mode.multiLine then if mode.crlf then .crlfLineStart else .lineStart else .textStart
  | .endLine => if mode.multiLine then if mode.crlf then .crlfLineEnd else .lineEnd else .textEnd
  | .startText => .textStart
  | .endText => .textEnd
  | .wordBoundary => .word .boundary mode.alphabet
  | .notWordBoundary => .word .notBoundary mode.alphabet
  | .wordStart => .word .start mode.alphabet
  | .wordEnd => .word .stop mode.alphabet
  | .wordStartHalf => .word .startHalf mode.alphabet
  | .wordEndHalf => .word .stopHalf mode.alphabet

def Resolved.andThen : Resolved → Resolved → Resolved
  | .empty, right => right
  | left, .empty => left
  | left, right => .cat left right

mutual
/-- What a pattern stands for in a mode, and the mode after it. Flags in a group end with it. -/
def Expression.resolve (mode : Mode) : Expression → Except Fault (Resolved × Mode)
  | .empty _ => .ok (.empty, mode)
  | .flags _ marks => .ok (.empty, mode.apply marks)
  | .literal l => .ok (mode.literal l, mode)
  | .dot _ => .ok (mode.dot, mode)
  | .assertion _ kind => .ok (.anchor (mode.assertion kind), mode)
  | .letterClass _ kind isNegated => .ok (mode.classOf (mode.letterSet kind isNegated), mode)
  | .unicodeClass cls => do
      let set ← mode.unicodeSet cls
      return (.charClass set, mode)
  | .bracketed _ isNegated body => do
      let set ← body.resolve mode
      return (mode.classOf (mode.negateIf isNegated (mode.fold set)), mode)
  | .repetition _ least most body => do
      let (body, mode) ← body.resolve mode
      return (.repeated body least most, mode)
  | .group _ .capture body => do
      let (body, _) ← body.resolve mode
      return (.captured body, mode)
  | .group _ (.plain marks) body => do
      let (body, _) ← body.resolve (mode.apply marks)
      return (body, mode)
  | .alternation _ branches => resolveBranches mode branches
  | .concat _ parts => resolveParts mode parts

def Expression.resolveParts (mode : Mode) : List Expression → Except Fault (Resolved × Mode)
  | [] => .ok (.empty, mode)
  | e :: rest => do
      let (first, mode) ← e.resolve mode
      let (others, mode) ← resolveParts mode rest
      return (first.andThen others, mode)

def Expression.resolveBranches (mode : Mode) : List Expression → Except Fault (Resolved × Mode)
  | [] => .ok (.byteClass [], mode)
  | [e] => e.resolve mode
  | e :: rest => do
      let (first, mode) ← e.resolve mode
      let (others, mode) ← resolveBranches mode rest
      return (.alt first others, mode)
end

def Regex.oneOf (first last : Nat) : Regex :=
  .byte [⟨UInt8.ofNat first, UInt8.ofNat last⟩]

def Regex.anyOf : List Regex → Regex
  | [] => .never
  | [r] => r
  | r :: rest => .alt r (anyOf rest)

/-- The big-endian digits to base 64 of the numbers from `low` to `high`, the first digit added to
`base` and each of the `count` others to 0x80. -/
def Regex.digits (base : Nat) : Nat → Nat → Nat → Regex
  | 0, low, high => .oneOf (base + low) (base + high)
  | count + 1, low, high =>
      let unit := Nat.pow 64 (count + 1)
      let first := low / unit
      let last := high / unit
      let follow (low high : Nat) : Regex := digits 0x80 count low high
      let only (digit : Nat) : Regex := .oneOf (base + digit) (base + digit)
      if first == last then .cat (only first) (follow (low % unit) (high % unit))
      else
        let cutsLow := low % unit != 0
        let cutsHigh := high % unit != unit - 1
        let head := if cutsLow then
          [Regex.cat (only first) (follow (low % unit) (unit - 1))] else []
        let firstWhole := if cutsLow then first + 1 else first
        let lastWhole := if cutsHigh then last - 1 else last
        let body := if firstWhole ≤ lastWhole then
          [Regex.cat (.oneOf (base + firstWhole) (base + lastWhole)) (follow 0 (unit - 1))] else []
        let tail := if cutsHigh then
          [Regex.cat (only last) (follow 0 (high % unit))] else []
        .anyOf (head ++ body ++ tail)

/-- The characters of an interval that have `count + 1` bytes, of which the first is marked by
`base`, and lie from `low` to `high`. -/
private def sized (low high base count : Nat) (i : Interval) : List Regex :=
  let first := max i.first low
  let last := min i.last high
  if first ≤ last then [Regex.digits base count first last] else []

def Regex.ofChars (set : Intervals) : Regex :=
  let ascii := set.filterMap fun i =>
    if i.first ≤ 0x7F then
      some (⟨UInt8.ofNat i.first, UInt8.ofNat (min i.last 0x7F)⟩ : ByteRange) else none
  let long := set.flatMap fun i =>
    sized 0x80 0x7FF 0xC0 1 i ++ sized 0x800 0xD7FF 0xE0 2 i ++ sized 0xE000 0xFFFF 0xE0 2 i
      ++ sized 0x10000 0x10FFFF 0xF0 3 i
  .anyOf (if ascii.isEmpty then long else .byte ascii :: long)

def Regex.ofChar (c : Char) : Regex :=
  go (String.utf8EncodeChar c)
where
  go : List UInt8 → Regex
    | [] => .empty
    | [b] => .byte [⟨b, b⟩]
    | b :: rest => .cat (.byte [⟨b, b⟩]) (go rest)

def ByteSet.ofIntervals (set : Intervals) : ByteSet :=
  set.map fun i => ⟨UInt8.ofNat i.first, UInt8.ofNat i.last⟩

def Resolved.toRegex : Resolved → Regex
  | .empty => .empty
  | .byte b => .byte [⟨b, b⟩]
  | .char c => .ofChar c
  | .byteClass set => .byte (ByteSet.ofIntervals set)
  | .charClass set => .ofChars set
  | .anchor a => .anchor a
  | .captured body => body.toRegex
  | .repeated body least most => .repeated body.toRegex least most
  | .cat left right => .cat left.toRegex right.toRegex
  | .alt left right => .alt left.toRegex right.toRegex

end LanguageDetection.Pattern
