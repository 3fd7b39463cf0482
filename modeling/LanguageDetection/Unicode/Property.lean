import LanguageDetection.Unicode.Table.Age
import LanguageDetection.Unicode.Table.Binary
import LanguageDetection.Unicode.Table.GeneralCategory
import LanguageDetection.Unicode.Table.Script
import LanguageDetection.Unicode.Table.ScriptExtensions
import LanguageDetection.Unicode.Table.Segmentation

/-!
Sets of characters by the name of a Unicode property. Names are compared loosely: case, spaces,
hyphens, underscores, characters outside ASCII and a leading "is" make no difference.
-/

namespace LanguageDetection.Unicode

def lastCodePoint : Nat := 0x10FFFF

inductive PropertyFault
  | propertyNotFound
  | valueNotFound
  deriving Repr, DecidableEq

def looseName (name : String) : String :=
  let chars := name.toList
  let (isMarked, body) : Bool × List Char := match chars with
    | i :: s :: rest =>
        if (i == 'i' || i == 'I') && (s == 's' || s == 'S') then (true, rest) else (false, chars)
    | _ => (false, chars)
  let isKept (c : Char) : Bool := c.toNat < 0x80 && c != ' ' && c != '_' && c != '-'
  let kept := (body.filter isKept).map Char.toLower
  if isMarked && kept == ['c'] then "isc" else String.ofList kept

def category? (name : String) : Option Intervals :=
  if name == "any" then some [⟨0, lastCodePoint⟩]
  else if name == "ascii" then some [⟨0, 0x7F⟩]
  else if name == "assigned" then
    (Row.find? Table.categories "cn").map (Intervals.complement lastCodePoint)
  else match Row.find? Table.categories name with
    | some set => some set
    | none =>
        (Table.categoryGroups.find? (·.1.contains name)).map fun group =>
          Intervals.canonical (group.2.flatMap fun member =>
            (Row.find? Table.categories member).getD [])

def script? (name : String) : Option Intervals :=
  Row.find? Table.scripts name

def scriptExtension? (name : String) : Option Intervals :=
  (Row.find? Table.scriptExtensions name).orElse fun _ => script? name

/-- The characters that a version of Unicode has. Each version keeps those of the ones before. -/
def age? (name : String) : Option Intervals :=
  go [] Table.ages
where
  go (older : Intervals) : List Row → Option Intervals
    | [] => none
    | row :: later =>
        let known := older ++ Intervals.ofTable row.table
        if row.names.contains name then some (Intervals.canonical known) else go known later

def otherProperties : List String := [
  "age", "bc", "bidiclass", "bidimirroringglyph", "bidipairedbracket", "bidipairedbrackettype",
  "blk", "block", "bmg", "bpb", "bpt", "canonicalcombiningclass", "casefolding", "ccc", "ce",
  "cf", "changeswhennfkccasefolded", "cjkaccountingnumeric", "cjkcompatibilityvariant",
  "cjkiicore", "cjkirggsource", "cjkirghsource", "cjkirgjsource", "cjkirgkpsource",
  "cjkirgksource", "cjkirgmsource", "cjkirgssource", "cjkirgtsource", "cjkirguksource",
  "cjkirgusource", "cjkirgvsource", "cjkothernumeric", "cjkprimarynumeric", "cjkrsunicode",
  "compex", "compositionexclusion", "cwkcf", "decompositionmapping", "decompositiontype", "dm",
  "dt", "ea", "eastasianwidth", "equideo", "equivalentunifiedideograph", "expandsonnfc",
  "expandsonnfd", "expandsonnfkc", "expandsonnfkd", "fcnfkc", "fcnfkcclosure",
  "fullcompositionexclusion", "gc", "gcb", "generalcategory", "graphemeclusterbreak",
  "hangulsyllabletype", "hst", "incb", "indicconjunctbreak", "indicpositionalcategory",
  "indicsyllabiccategory", "inpc", "insc", "isc", "jamoshortname", "jg", "joininggroup",
  "joiningtype", "jsn", "jt", "kaccountingnumeric", "kcompatibilityvariant", "kehcat", "kehdesc",
  "kehhg", "kehifao", "kehjsesh", "kehnomirror", "kehnorotate", "kiicore", "kirggsource",
  "kirghsource", "kirgjsource", "kirgkpsource", "kirgksource", "kirgmsource", "kirgssource",
  "kirgtsource", "kirguksource", "kirgusource", "kirgvsource", "kothernumeric", "kprimarynumeric",
  "krsunicode", "lb", "lc", "linebreak", "lowercasemapping", "na", "na1", "name", "namealias",
  "nfcqc", "nfcquickcheck", "nfdqc", "nfdquickcheck", "nfkccasefold", "nfkccf", "nfkcqc",
  "nfkcquickcheck", "nfkcscf", "nfkcsimplecasefold", "nfkdqc", "nfkdquickcheck", "nt",
  "numerictype", "numericvalue", "nv", "ocomment", "sb", "sc", "scf", "script",
  "scriptextensions", "scx", "sentencebreak", "sfc", "simplecasefolding",
  "simplelowercasemapping", "simpletitlecasemapping", "simpleuppercasemapping", "slc", "stc",
  "suc", "tc", "titlecasemapping", "uc", "unicode1name", "unicoderadicalstroke",
  "uppercasemapping", "urs", "verticalorientation", "vo", "wb", "wordbreak", "xonfc", "xonfd",
  "xonfkc", "xonfkd"]

private def orMissing (set? : Option Intervals) : Except PropertyFault Intervals :=
  match set? with
  | some set => .ok set
  | none => .error .valueNotFound

/-- The set that a single name stands for. A name of a property wins over one of a category, and
that over one of a script; three short names that stand for both are read as categories. -/
def namedSet (name : String) : Except PropertyFault Intervals :=
  let key := looseName name
  let isProperty := key != "cf" && key != "sc" && key != "lc"
  match if isProperty then Row.find? Table.properties key else none with
  | some set => .ok set
  | none =>
      if isProperty && otherProperties.contains key then .error .propertyNotFound
      else if Table.emptyCategories.contains key || Table.emptyScripts.contains key then
        .error .valueNotFound
      else match category? key with
        | some set => .ok set
        | none => match script? key with
          | some set => .ok set
          | none => .error .propertyNotFound

def valuedSet (name value : String) : Except PropertyFault Intervals :=
  let key := looseName name
  let value := looseName value
  if key == "gc" || key == "generalcategory" then orMissing (category? value)
  else if key == "sc" || key == "script" then orMissing (script? value)
  else if key == "scx" || key == "scriptextensions" then orMissing (scriptExtension? value)
  else if key == "age" then orMissing (age? value)
  else if key == "gcb" || key == "graphemeclusterbreak" then
    orMissing (Row.find? Table.graphemeBreaks value)
  else if key == "wb" || key == "wordbreak" then orMissing (Row.find? Table.wordBreaks value)
  else if key == "sb" || key == "sentencebreak" then
    orMissing (Row.find? Table.sentenceBreaks value)
  else if otherProperties.contains key || (Row.find? Table.properties key).isSome then
    .error .valueNotFound
  else .error .propertyNotFound

end LanguageDetection.Unicode
