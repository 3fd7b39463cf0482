import LanguageDetection.Pattern.Compile

namespace LanguageDetection

open LanguageDetection.Pattern
open LanguageDetection.Text

structure Rule where
  pattern : String
  weight : UInt32
  searcher : Searcher
  deriving Repr

namespace Rule

def ofPattern (pattern : String) (weight : UInt32) : Except PatternError Rule :=
  (Searcher.ofPattern pattern).map fun searcher => { pattern, weight, searcher }

def matchesBytes (rule : Rule) (bytes : List UInt8) : Bool :=
  rule.searcher.search bytes

def isMatch (rule : Rule) (text : String) : Bool :=
  rule.matchesBytes (Utf8.encode text)

end Rule

end LanguageDetection
