import LanguageDetection.Unicode.Table.GeneralCategory
import LanguageDetection.Unicode.Table.Binary

namespace LanguageDetection.Unicode

private def gather (categories properties : List String) : Array Interval :=
  (Intervals.canonical
    (categories.flatMap (fun name => (Row.find? Table.categories name).getD [])
      ++ properties.flatMap fun name => (Row.find? Table.properties name).getD [])).toArray

/-- The characters of words: alphabetic ones, marks, decimal digits, connectors and joiners. -/
def wordChars : Array Interval :=
  gather ["mn", "mc", "me", "nd", "pc"] ["alphabetic", "joincontrol"]

def decimalDigits : Array Interval :=
  gather ["nd"] []

def alphabetic : Array Interval :=
  gather [] ["alphabetic"]

def alphanumeric : Array Interval :=
  gather ["nd", "nl", "no"] ["alphabetic"]

def cased : Array Interval :=
  gather [] ["cased"]

def caseIgnorable : Array Interval :=
  gather [] ["caseignorable"]

def unprintable : Array Interval :=
  gather ["cc", "cf", "cs", "co", "cn", "zl", "zp", "zs"] ["graphemeextend"]

private def lies (c : Char) (set : Array Interval) : Bool :=
  Intervals.bisect set c.toNat set.size 0 set.size

def isDecimalDigit (c : Char) : Bool := lies c decimalDigits
def isWordChar (c : Char) : Bool := lies c wordChars
def isAlphabetic (c : Char) : Bool := lies c alphabetic
def isAlphanumeric (c : Char) : Bool := lies c alphanumeric
def isCased (c : Char) : Bool := lies c cased
def isCaseIgnorable (c : Char) : Bool := lies c caseIgnorable
def isPrintable (c : Char) : Bool := c == ' ' || !lies c unprintable

end LanguageDetection.Unicode
