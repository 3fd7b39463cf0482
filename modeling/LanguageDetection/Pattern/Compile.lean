import LanguageDetection.Pattern.Nesting
import LanguageDetection.Pattern.Reading
import LanguageDetection.Pattern.Weight

namespace LanguageDetection.Pattern

inductive PatternError
  | malformed (text : String)
  | tooBig
  deriving Repr, DecidableEq

def PatternError.message : PatternError → String
  | .malformed text => text
  | .tooBig => "Compiled regex exceeds size limit of " ++ toString weightLimit ++ " bytes."

def Resolved.ofPattern (pattern : String) : Except Fault Resolved := do
  let expression ← Expression.ofChars pattern.toList
  expression.checkDepth 0
  let (resolved, _) ← expression.resolve Mode.initial
  return resolved

/-- A pattern ready to be searched for. Letters match in either case; classes and word boundaries
know ASCII only unless the pattern asks for Unicode. -/
def Searcher.ofPattern (pattern : String) : Except PatternError Searcher :=
  match Resolved.ofPattern pattern with
  | .error fault => .error (.malformed (fault.render pattern))
  | .ok resolved =>
      if resolved.isTooBig then .error .tooBig else .ok (.ofRegex resolved.toRegex)

end LanguageDetection.Pattern
