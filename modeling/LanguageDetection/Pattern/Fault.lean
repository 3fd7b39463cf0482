import LanguageDetection.Pattern.Span

namespace LanguageDetection.Pattern

inductive FaultKind
  | classEscapeInvalid
  | classRangeInvalid
  | classRangeLiteral
  | classUnclosed
  | decimalEmpty
  | decimalInvalid
  | hexEmpty
  | hexNotScalar
  | hexInvalidDigit
  | escapeUnexpectedEnd
  | escapeUnrecognized
  | flagDanglingNegation
  | flagDuplicate
  | flagRepeatedNegation
  | flagUnexpectedEnd
  | flagUnrecognized
  | groupNameDuplicate
  | groupNameEmpty
  | groupNameInvalid
  | groupNameUnexpectedEnd
  | groupUnclosed
  | groupUnopened
  | nestLimitExceeded (limit : Nat)
  | repetitionCountInvalid
  | repetitionCountDecimalEmpty
  | repetitionCountUnclosed
  | repetitionMissing
  | wordBoundaryUnclosed
  | wordBoundaryUnrecognized
  | wordBoundaryOrRepetitionUnexpectedEnd
  | unicodeClassInvalid
  | backreference
  | lookAround
  | unicodeNotAllowed
  | unicodePropertyNotFound
  | unicodePropertyValueNotFound
  deriving Repr, DecidableEq

def FaultKind.message : FaultKind → String
  | .classEscapeInvalid => "invalid escape sequence found in character class"
  | .classRangeInvalid => "invalid character class range, the start must be <= the end"
  | .classRangeLiteral => "invalid range boundary, must be a literal"
  | .classUnclosed => "unclosed character class"
  | .decimalEmpty => "decimal literal empty"
  | .decimalInvalid => "decimal literal invalid"
  | .hexEmpty => "hexadecimal literal empty"
  | .hexNotScalar => "hexadecimal literal is not a Unicode scalar value"
  | .hexInvalidDigit => "invalid hexadecimal digit"
  | .escapeUnexpectedEnd => "incomplete escape sequence, reached end of pattern prematurely"
  | .escapeUnrecognized => "unrecognized escape sequence"
  | .flagDanglingNegation => "dangling flag negation operator"
  | .flagDuplicate => "duplicate flag"
  | .flagRepeatedNegation => "flag negation operator repeated"
  | .flagUnexpectedEnd => "expected flag but got end of regex"
  | .flagUnrecognized => "unrecognized flag"
  | .groupNameDuplicate => "duplicate capture group name"
  | .groupNameEmpty => "empty capture group name"
  | .groupNameInvalid => "invalid capture group character"
  | .groupNameUnexpectedEnd => "unclosed capture group name"
  | .groupUnclosed => "unclosed group"
  | .groupUnopened => "unopened group"
  | .nestLimitExceeded limit =>
      "exceed the maximum number of nested parentheses/brackets (" ++ toString limit ++ ")"
  | .repetitionCountInvalid =>
      "invalid repetition count range, the start must be <= the end"
  | .repetitionCountDecimalEmpty => "repetition quantifier expects a valid decimal"
  | .repetitionCountUnclosed => "unclosed counted repetition"
  | .repetitionMissing => "repetition operator missing expression"
  | .wordBoundaryUnclosed =>
      "special word boundary assertion is either unclosed or contains an invalid character"
  | .wordBoundaryUnrecognized =>
      "unrecognized special word boundary assertion, valid choices are: " ++
        "start, end, start-half or end-half"
  | .wordBoundaryOrRepetitionUnexpectedEnd =>
      "found either the beginning of a special word boundary or a bounded repetition on a " ++
        "\\b with an opening brace, but no closing brace"
  | .unicodeClassInvalid => "invalid Unicode character class"
  | .backreference => "backreferences are not supported"
  | .lookAround => "look-around, including look-ahead and look-behind, is not supported"
  | .unicodeNotAllowed => "Unicode not allowed here"
  | .unicodePropertyNotFound => "Unicode property not found"
  | .unicodePropertyValueNotFound => "Unicode property value not found"

structure Fault where
  kind : FaultKind
  span : Span
  earlier : Option Span := none
  deriving Repr, DecidableEq

namespace Fault

/-- The lines of a text. A line ends with a line feed or with a carriage return and a line feed, and
the end of the text ends a line only if something stands on it. -/
def linesOf (chars : List Char) : List (List Char) :=
  go [] chars
where
  clean (reversed : List Char) : List Char :=
    match reversed with
    | '\r' :: rest => rest.reverse
    | _ => reversed.reverse
  go (reversed : List Char) : List Char → List (List Char)
    | [] => if reversed.isEmpty then [] else [reversed.reverse]
    | '\n' :: rest => clean reversed :: go [] rest
    | c :: rest => go (c :: reversed) rest

def spaces (n : Nat) : List Char := List.replicate n ' '

def carets (column : Nat) : List Span → List Char
  | [] => []
  | span :: rest =>
      let lead := span.start.column - 1 - column
      let width := max 1 (span.stop.column - span.start.column)
      spaces lead ++ List.replicate width '^' ++ carets (column + lead + width) rest

def sortedSpans (spans : List Span) : List Span :=
  spans.mergeSort Span.le

def lineLabel (width number : Nat) : List Char :=
  let digits := (toString number).toList
  spaces (width - digits.length) ++ digits

def notated (width : Nat) (spans : List Span) (lines : List (List Char)) : List Char :=
  go 1 lines
where
  margin : Nat := if width == 0 then 4 else width + 2
  go (number : Nat) : List (List Char) → List Char
    | [] => []
    | line :: rest =>
        let label := if width == 0 then spaces 4 else lineLabel width number ++ [':', ' ']
        let here := sortedSpans (spans.filter fun s => s.isOneLine && s.start.line == number)
        let marks := if here.isEmpty then [] else spaces margin ++ carets 0 here ++ ['\n']
        label ++ line ++ ['\n'] ++ marks ++ go (number + 1) rest

def lineNote (span : Span) : String :=
  "on line " ++ toString span.start.line ++ " (column " ++ toString span.start.column
    ++ ") through line " ++ toString span.stop.line
    ++ " (column " ++ toString (span.stop.column - 1) ++ ")"

def render (fault : Fault) (pattern : String) : String :=
  let chars := pattern.toList
  let lines := linesOf chars
  let count := if chars.getLast? == some '\n' then lines.length + 1 else lines.length
  let width := if count ≤ 1 then 0 else (toString count).length
  let spans := fault.span :: fault.earlier.toList
  let shown := String.ofList (notated width spans lines)
  let heading := "regex parse error:\n"
  let verdict := "error: " ++ fault.kind.message
  if chars.contains '\n' then
    let divider := String.ofList (List.replicate 79 '~') ++ "\n"
    let long := sortedSpans (spans.filter fun s => !s.isOneLine)
    let notes :=
      if long.isEmpty then "" else String.intercalate "\n" (long.map lineNote) ++ "\n"
    heading ++ divider ++ shown ++ divider ++ notes ++ verdict
  else heading ++ shown ++ verdict

end Fault

end LanguageDetection.Pattern
