import LanguageDetection.Pattern.Span

namespace LanguageDetection.Pattern

inductive Flag
  | caseInsensitive
  | multiLine
  | dotMatchesNewLine
  | swapGreed
  | unicode
  | crlf
  | verbose
  deriving Repr, DecidableEq

inductive FlagMark
  | negation
  | flag (flag : Flag)
  deriving Repr, DecidableEq

abbrev FlagMarks := List FlagMark

def FlagMarks.state? (flag : Flag) (marks : FlagMarks) : Option Bool :=
  go true marks
where
  go (on : Bool) : FlagMarks → Option Bool
    | [] => none
    | .negation :: rest => go false rest
    | .flag f :: rest => if f = flag then some on else go on rest

/-- A character as written. `isByte` marks two hexadecimal digits after `\x`, which may stand for a
byte. -/
structure Literal where
  span : Span
  char : Char
  isByte : Bool
  deriving Repr, DecidableEq

inductive AssertionKind
  | startLine
  | endLine
  | startText
  | endText
  | wordBoundary
  | notWordBoundary
  | wordStart
  | wordEnd
  | wordStartHalf
  | wordEndHalf
  deriving Repr, DecidableEq

inductive LetterClass
  | digit
  | space
  | word
  deriving Repr, DecidableEq

inductive NamedClass
  | alnum | alpha | ascii | blank | cntrl | digit | graph
  | lower | print | punct | space | upper | word | xdigit
  deriving Repr, DecidableEq

inductive UnicodeName
  | single (name : String)
  | valued (isEqual : Bool) (name value : String)
  deriving Repr, DecidableEq

structure UnicodeClass where
  span : Span
  isNegated : Bool
  name : UnicodeName
  deriving Repr, DecidableEq

inductive SetOperator
  | intersection
  | difference
  | symmetricDifference
  deriving Repr, DecidableEq

inductive ClassSet
  | empty (span : Span)
  | literal (literal : Literal)
  | range (span : Span) (first last : Literal)
  | named (span : Span) (kind : NamedClass) (isNegated : Bool)
  | letter (span : Span) (kind : LetterClass) (isNegated : Bool)
  | unicode (cls : UnicodeClass)
  | bracketed (span : Span) (isNegated : Bool) (body : ClassSet)
  | union (span : Span) (items : List ClassSet)
  | combined (span : Span) (operator : SetOperator) (left right : ClassSet)
  deriving Repr

def ClassSet.span : ClassSet → Span
  | .empty span => span
  | .literal l => l.span
  | .range span .. => span
  | .named span .. => span
  | .letter span .. => span
  | .unicode cls => cls.span
  | .bracketed span .. => span
  | .union span _ => span
  | .combined span .. => span

inductive GroupKind
  | capture
  | plain (flags : FlagMarks)
  deriving Repr, DecidableEq

inductive Expression
  | empty (span : Span)
  | flags (span : Span) (marks : FlagMarks)
  | literal (literal : Literal)
  | dot (span : Span)
  | assertion (span : Span) (kind : AssertionKind)
  | letterClass (span : Span) (kind : LetterClass) (isNegated : Bool)
  | unicodeClass (cls : UnicodeClass)
  | bracketed (span : Span) (isNegated : Bool) (body : ClassSet)
  | repetition (span : Span) (least : Nat) (most : Option Nat) (body : Expression)
  | group (span : Span) (kind : GroupKind) (body : Expression)
  | alternation (span : Span) (branches : List Expression)
  | concat (span : Span) (parts : List Expression)
  deriving Repr

def Expression.span : Expression → Span
  | .empty span => span
  | .flags span _ => span
  | .literal l => l.span
  | .dot span => span
  | .assertion span _ => span
  | .letterClass span .. => span
  | .unicodeClass cls => cls.span
  | .bracketed span .. => span
  | .repetition span .. => span
  | .group span .. => span
  | .alternation span _ => span
  | .concat span _ => span

end LanguageDetection.Pattern
