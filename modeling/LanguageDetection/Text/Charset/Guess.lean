import LanguageDetection.Text.Charset.EastAsian
import LanguageDetection.Text.Charset.Latin
import LanguageDetection.Text.Charset.NonLatin
import LanguageDetection.Text.Charset.Family.Western
import LanguageDetection.Text.Charset.Family.Icelandic
import LanguageDetection.Text.Charset.Family.Central
import LanguageDetection.Text.Charset.Family.Baltic
import LanguageDetection.Text.Charset.Family.Turkish
import LanguageDetection.Text.Charset.Family.Vietnamese
import LanguageDetection.Text.Charset.Family.Cyrillic
import LanguageDetection.Text.Charset.Family.Greek
import LanguageDetection.Text.Charset.Family.Hebrew
import LanguageDetection.Text.Charset.Family.Arabic
import LanguageDetection.Text.Charset.Family.Thai

namespace LanguageDetection.Text.Charset

def windows1250 : CodePage := ⟨"windows-1250", Table.windows1250⟩
def windows1251 : CodePage := ⟨"windows-1251", Table.windows1251⟩
def windows1252 : CodePage := ⟨"windows-1252", Table.windows1252⟩
def windows1253 : CodePage := ⟨"windows-1253", Table.windows1253⟩
def windows1254 : CodePage := ⟨"windows-1254", Table.windows1254⟩
def windows1255 : CodePage := ⟨"windows-1255", Table.windows1255⟩
def windows1256 : CodePage := ⟨"windows-1256", Table.windows1256⟩
def windows1257 : CodePage := ⟨"windows-1257", Table.windows1257⟩
def windows1258 : CodePage := ⟨"windows-1258", Table.windows1258⟩
def windows874 : CodePage := ⟨"windows-874", Table.windows874⟩
def iso8859Part2 : CodePage := ⟨"ISO-8859-2", Table.iso8859Part2⟩
def iso8859Part4 : CodePage := ⟨"ISO-8859-4", Table.iso8859Part4⟩
def iso8859Part5 : CodePage := ⟨"ISO-8859-5", Table.iso8859Part5⟩
def iso8859Part6 : CodePage := ⟨"ISO-8859-6", Table.iso8859Part6⟩
def iso8859Part7 : CodePage := ⟨"ISO-8859-7", Table.iso8859Part7⟩
def iso8859Part8 : CodePage := ⟨"ISO-8859-8", Table.iso8859Part8⟩
def koi8u : CodePage := ⟨"KOI8-U", Table.koi8u⟩
def ibm866 : CodePage := ⟨"IBM866", Table.ibm866⟩

inductive Candidate
  | eastAsian (charset : Charset)
  | latin (hasOrdinals : Bool) (usage : Usage)
  | nonLatin (habits : Habits) (usage : Usage)

namespace Candidate

def charset : Candidate → Charset
  | .eastAsian charset => charset
  | .latin _ usage => .page usage.codePage
  | .nonLatin _ usage => .page usage.codePage

def points? (candidate : Candidate) (bytes : List UInt8) : Option Int :=
  match candidate with
  | .eastAsian charset => charset.eastAsianPoints? bytes
  | .latin hasOrdinals usage => (usage.marks? bytes).map fun marks =>
      latinPoints usage.family marks + if hasOrdinals then ordinalPoints marks else 0
  | .nonLatin habits usage => do nonLatinPoints? usage.family habits (← usage.marks? bytes)

end Candidate

def hebrewInOrder : Usage := .of windows1255 .hebrew

/-- Hebrew in the order of sight, where the ends of lines come first. -/
def hebrewInSight : Usage := .of iso8859Part8 .hebrew

/-- The charsets that are considered. Of two that are equally plausible the first is taken. -/
def candidates : List Candidate := [
  .eastAsian .gbk,
  .eastAsian .eucJp,
  .eastAsian .eucKr,
  .eastAsian .shiftJis,
  .eastAsian .big5,
  .latin true (.of windows1252 .western),
  .nonLatin { capitals? := some 0 } (.of windows1251 .cyrillic),
  .latin false (.of windows1250 .central),
  .latin false (.of iso8859Part2 .central),
  .nonLatin {} (.of windows1256 .arabic),
  .latin false (.of windows1252 .icelandic),
  .latin false (.of windows1254 .turkish),
  .nonLatin {} (.of windows874 .thai),
  .nonLatin {} hebrewInOrder,
  .nonLatin { capitals? := some 0 } (.of windows1253 .greek),
  .nonLatin { capitals? := some 0 } (.of iso8859Part7 .greek),
  .latin false (.of windows1257 .baltic),
  .nonLatin { capitals? := some (-40) } (.of koi8u .cyrillic),
  .nonLatin { capitals? := some 0, blankElsewhere? := some 0xA0 } (.of ibm866 .cyrillic),
  .nonLatin {} (.of iso8859Part6 .arabic),
  .latin false (.of windows1258 .vietnamese),
  .latin false (.of iso8859Part4 .baltic),
  .nonLatin { capitals? := some 0 } (.of iso8859Part5 .cyrillic)]

structure Choice where
  charset : Charset
  points : Int
  deriving Repr

/-- Where no charset is plausible at all, bytes are taken for windows-1252. -/
def Choice.default : Choice := ⟨.page windows1252, 0⟩

def Choice.better (first second : Choice) : Choice :=
  if first.points < second.points then second else first

def Candidate.choice? (candidate : Candidate) (bytes : List UInt8) : Option Choice :=
  (candidate.points? bytes).map fun points => ⟨candidate.charset, points⟩

def mostPlausible (bytes : List UInt8) : Choice :=
  (candidates.filterMap (·.choice? bytes)).foldl Choice.better .default

/-- Hebrew in the order of sight, if that is more plausible than a choice. Its letters are those of
the page in the order of speech, so between the two it is for the punctuation to say. -/
def Choice.inSight? (choice : Choice) (bytes : List UInt8) : Option Choice := do
  let marks ← hebrewInSight.marks? bytes
  let points ← nonLatinPoints? hebrewInSight.family {} marks
  let spoken := ((hebrewInOrder.marks? bytes).map punctuationAfterWords).getD 0
  let isHebrew := choice.charset.name == windows1255.name
  if (choice.points < points || isHebrew) && spoken < punctuationBeforeWords marks then
    return ⟨.page iso8859Part8, points⟩
  else none

def guess (bytes : List UInt8) : Charset :=
  let choice := mostPlausible bytes
  ((choice.inSight? bytes).getD choice).charset

end LanguageDetection.Text.Charset
