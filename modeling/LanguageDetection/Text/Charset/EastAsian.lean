import LanguageDetection.Text.Charset.Basic

namespace LanguageDetection.Text.Charset

def frequentSimplified : Array Char :=
  ("的一国在人了有中是年和大业不为发会工经上地市要个产这出行作生家以成到日民来我部对进多全建他公开们场展时理新方主企资实学报制政济用"
    ++ "同于法高长现本月定化加动合品重关机分力自外者区能设后就等体下万元社过前面农也得与说之员而务利电文事可种总改三各好金第司其从平代当").toList.toArray

def frequentKanji : Array Char :=
  ("一人使行出見定分上用時方事自合下私動書作思来場手子中入大日間設要何実前文的言御気以本必生二者変彼通知同最数意能目心後立持名云全理"
    ++ "今無対起込問小葉新関部当度可法力情様取正女話成点年語表先他内続物音読家三次報十明示不例所訳記聞有多切指付機注外送接考信少体長現字").toList.toArray

def frequentHangul : Array Char :=
  ("다이는하에을의로를한스서지가은있고리어기것용사수일트해시그들도정자면니인라으할나드보만여파되설게대터러제문아프부우적된버과모주위"
    ++ "치크분와전디요메소상명경않작때음실신야장바데입같행구세내포동화템눅마른없당유호록개원성함습비합필번방커더결운든네간널단관션키래능").toList.toArray

def frequencyPoints (frequent : Array Char) (c : Char) : Int :=
  match frequent.idxOf? c with
  | some place => ((128 - place) / 16 : Nat)
  | none => 0

def common : Int := 41

def uncommon : Int := 20

inductive Former
  | latinLetter
  | ideograph
  | hangul
  | other
  deriving Repr, DecidableEq

def Former.isEastAsian (former : Former) : Bool := former == .ideograph || former == .hangul

def isBetween (first last : Nat) (c : Char) : Bool := first ≤ c.toNat && c.toNat ≤ last

def isKana : Char → Bool := isBetween 0x3040 0x30FF

def isHangul : Char → Bool := isBetween 0xAC00 0xD7A3

def isIdeograph (c : Char) : Bool := isBetween 0x3400 0x9FFF c || isBetween 0xF900 0xFAFF c

def isAstral (c : Char) : Bool := 0x10000 ≤ c.toNat

def isPrivate : Char → Bool := isBetween 0xE000 0xF8FF

def isAsciiLetter (byte : UInt8) : Bool :=
  (0x41 ≤ byte && byte ≤ 0x5A) || (0x61 ≤ byte && byte ≤ 0x7A)

def sharedPunctuation : List Char := "\u3000、。（）".toList

def chinesePunctuation : List Char := "\u3000、。（）！，；？".toList

def signPoints (punctuation : List Char) (c : Char) : Int :=
  if punctuation.contains c then uncommon else 5

/-- Lead bytes that are signs in the code pages of Europe, such as quotation marks. -/
def isDoubtfulLead (lead : UInt8) : Bool :=
  (0x91 ≤ lead && lead ≤ 0x97) || [0x8A, 0x8B, 0x8E, 0x9A, 0x9B, 0x9E, 0xB0].contains lead

def isDoubtfulGbkLead (lead : UInt8) : Bool :=
  isDoubtfulLead lead || [0x82, 0x84, 0x85, 0xA0].contains lead

structure Judgement where
  points : Int
  former : Former
  /-- Whether the points count only if another character outside ASCII follows, unless one came
  before. -/
  isDoubtful : Bool := false
  deriving Repr, DecidableEq

namespace Judgement

def ideograph (points : Int) (isDoubtful : Bool := false) : Judgement :=
  { points, former := .ideograph, isDoubtful }

def sign (points : Int) (isDoubtful : Bool := false) : Judgement :=
  { points, former := .other, isDoubtful }

end Judgement

inductive Voicing
  | none
  | voiced
  | halfVoiced
  deriving Repr, DecidableEq

structure Tally where
  points : Int := 0
  former : Former := .other
  pending : Int := 0
  run : Nat := 0
  voicing : Voicing := .none
  isFirst : Bool := true
  deriving Repr, DecidableEq

def adjacency : Int := -40

namespace Tally

def step (tally : Tally) (latter : Former) : Int :=
  if (tally.former == .latinLetter && latter.isEastAsian)
      || (tally.former.isEastAsian && latter == .latinLetter) then adjacency
  else 0

def ascii (tally : Tally) (byte : UInt8) : Tally :=
  let latter : Former := if isAsciiLetter byte then .latinLetter else .other
  { tally with
    points := tally.points + tally.step latter
    former := latter
    pending := 0
    run := 0
    voicing := .none }

def judged (tally : Tally) (judgement : Judgement) : Tally :=
  let isHeld := judgement.isDoubtful && !tally.former.isEastAsian
  { tally with
    points := tally.points + tally.pending + tally.step judgement.former
      + (if isHeld then 0 else judgement.points)
    former := judgement.former
    pending := if isHeld then judgement.points else 0
    voicing := .none
    isFirst := false }

def faulty (tally : Tally) (points : Int) (latter : Former) : Tally :=
  { tally with
    points := tally.points + tally.step latter + points
    former := latter
    pending := 0
    run := 0
    voicing := .none }

end Tally

def gbkJudgement (lead trail : UInt8) (c : Char) : Judgement :=
  let isDoubtful := isDoubtfulGbkLead lead
  if isBetween 0x4E00 0x9FA5 c then
    .ideograph
      (if trail < 0xA1 || lead < 0xB0 then 5
        else if lead ≤ 0xD7 then common + frequencyPoints frequentSimplified c
        else uncommon)
      isDoubtful
  else if isIdeograph c || isAstral c then .ideograph 5 isDoubtful
  else if isPrivate c then .ideograph (-410) isDoubtful
  else .sign (signPoints chinesePunctuation c) isDoubtful

/-- A fault of GBK: some computers have signs of one byte where other bytes lead. -/
def gbkFault? (tally : Tally) (bytes : List UInt8) : Option Tally :=
  match bytes with
  | [_] => some (tally.faulty (-1640) .other)
  | [lead, trail] =>
      if lead == 0xA0 || 0xFD ≤ lead then
        some (tally.faulty (if trail == 0xFF then -3280 else -1640) .other)
      else none
  | _ => none

def gbkTally? (tally : Tally) : Piece → Option Tally
  | .ascii byte => some (tally.ascii byte)
  | .chars [_] _ => some (tally.faulty 0 .other)
  | .chars [lead, trail] [c] => some (tally.judged (gbkJudgement lead trail c))
  | .chars _ [c] => some (tally.judged
      (if isIdeograph c || isAstral c then .ideograph 5 else .sign 5))
  | .chars _ _ => none
  | .fault bytes => gbkFault? tally bytes
  | .unfinished => none

def eucJpJudgement (lead : UInt8) (c : Char) : Judgement :=
  if isBetween 0x3041 0x3093 c || isBetween 0x30A1 0x30F6 c then
    .ideograph (if "ゐゑヰヱ".contains c then common - 1 else common + common / 3)
  else if isBetween 0x3400 0x9FFF c then
    .ideograph
      (if lead == 0x8F then 5
        else if lead < 0xD0 then common + frequencyPoints frequentKanji c
        else uncommon)
  else .sign (signPoints sharedPunctuation c)

def firstKanaPoints (c : Char) : Int := if isKana c then -14 else 0

def eucJpTally? (tally : Tally) : Piece → Option Tally
  | .ascii byte => some (tally.ascii byte)
  | .chars (lead :: _) [c] =>
      let judgement := eucJpJudgement lead c
      some (tally.judged (if tally.isFirst then
        { judgement with points := judgement.points + firstKanaPoints c } else judgement))
  | .chars _ _ => none
  | .fault (0x8F :: bytes) | .fault bytes =>
      if 2 ≤ bytes.length && bytes.all isEucByte then some (tally.faulty (-2050) .ideograph)
      else none
  | .unfinished => none

def longWordPoints (run : Nat) : Int := if 5 < run then -6 else 0

def eucKrJudgement (tally : Tally) (lead trail : UInt8) (c : Char) : Judgement :=
  let isDoubtful := isDoubtfulLead lead
  if isHangul c then
    { points := (if lead < 0xA1 || trail < 0xA1 then 4
        else common + 1 + frequencyPoints frequentHangul c) + longWordPoints (tally.run + 1)
      former := .hangul
      isDoubtful }
  else if isIdeograph c then
    .ideograph
      (10 + longWordPoints (tally.run + 1) + (if tally.former == .hangul then -410 else 0))
      isDoubtful
  else .sign 5 isDoubtful

/-- A fault of EUC-KR: two rows are left to private use. -/
def eucKrFault? (tally : Tally) (bytes : List UInt8) : Option Tally :=
  match bytes with
  | [byte] => if byte == 0xFF then some (tally.faulty (-822) .other) else none
  | [lead, trail] =>
      if (lead == 0xC9 || lead == 0xFE) && isEucByte trail then
        some (tally.judged (.ideograph (-411)))
      else none
  | _ => none

def eucKrTally? (tally : Tally) : Piece → Option Tally
  | .ascii byte => some (tally.ascii byte)
  | .chars [lead, trail] [c] =>
      let judgement := eucKrJudgement tally lead trail c
      let run := if judgement.former.isEastAsian then tally.run + 1 else 0
      some { tally.judged judgement with run }
  | .chars _ _ => none
  | .fault bytes => eucKrFault? tally bytes
  | .unfinished => none

def voicingAfter (c : Char) : Voicing :=
  if isBetween 0xFF76 0xFF84 c || c == 'ｳ' then .voiced
  else if isBetween 0xFF8A 0xFF8E c then .halfVoiced
  else .none

/-- A half-width katakana: unlikely to start a text, and no mark of voice without its letter. -/
def halfWidthPoints (tally : Tally) (c : Char) : Int :=
  1 + (if tally.isFirst then -75 else 0)
    + (if c == '\uFF9E' then (if tally.voicing == .none then implausibleMark else 10)
      else if c == '\uFF9F' then (if tally.voicing == .halfVoiced then 10 else implausibleMark)
      else 0)
where
  implausibleMark : Int := -220

def shiftJisJudgement (lead trail : UInt8) (c : Char) : Judgement :=
  if isKana c then .ideograph uncommon
  else if isIdeograph c then
    .ideograph
      (if lead < 0x98 || (lead == 0x98 && trail < 0x73) then
        common + frequencyPoints frequentKanji c
      else uncommon)
      (isDoubtfulLead lead)
  else if isPrivate c then .ideograph (-410)
  else .sign (signPoints sharedPunctuation c)

def isShiftJisExtension (lead trail : UInt8) : Bool :=
  ((0x40 ≤ trail && trail ≤ 0x7E) || (0x80 ≤ trail && trail ≤ 0xFC))
    && !((lead == 0x82 && 0xFA ≤ trail)
      || (lead == 0x84 && ((0xDD ≤ trail && trail ≤ 0xE4) || 0xFB ≤ trail))
      || (lead == 0x86 && 0xF2 ≤ trail && trail ≤ 0xFA)
      || (lead == 0x87 && 0x77 ≤ trail && trail ≤ 0x7D)
      || (lead == 0xFC && 0xF5 ≤ trail))

def shiftJisFault? (tally : Tally) (bytes : List UInt8) : Option Tally :=
  match bytes with
  | [_] => some (tally.faulty (-820) .other)
  | [lead, trail] =>
      if isShiftJisExtension lead trail then
        some (tally.faulty (-820) (if lead < 0x87 then .other else .ideograph))
      else none
  | _ => none

def shiftJisTally? (tally : Tally) : Piece → Option Tally
  | .ascii byte => some (tally.ascii byte)
  | .chars [0x80] _ => some { tally.faulty (-220) .other with isFirst := false }
  | .chars [_] [c] =>
      some { tally.judged (.ideograph (halfWidthPoints tally c)) with voicing := voicingAfter c }
  | .chars [lead, trail] [c] => some (tally.judged (shiftJisJudgement lead trail c))
  | .chars _ _ => none
  | .fault bytes => shiftJisFault? tally bytes
  | .unfinished => none

def big5Judgement (lead : UInt8) (text : List Char) : Judgement :=
  let isDoubtful := isDoubtfulLead lead
  match text with
  | [c] =>
      if isIdeograph c || isAstral c then
        .ideograph (if 0xA4 ≤ lead && lead ≤ 0xC6 then common else uncommon) isDoubtful
      else .sign (signPoints chinesePunctuation c) isDoubtful
  | _ => .sign 5 isDoubtful

def big5Fault? (tally : Tally) (bytes : List UInt8) : Option Tally :=
  match bytes with
  | [_] => some (tally.faulty (-1640) .other)
  | [lead, trail] =>
      if (0x40 ≤ trail && trail ≤ 0x7E) || isEucByte trail then
        some (tally.faulty (-1230) .ideograph)
      else if lead == 0xA0 || 0xFD ≤ lead then some (tally.faulty (-1640) .other)
      else none
  | _ => none

def big5Tally? (tally : Tally) : Piece → Option Tally
  | .ascii byte => some (tally.ascii byte)
  | .chars (lead :: _) text => some (tally.judged (big5Judgement lead text))
  | .chars [] _ => none
  | .fault bytes => big5Fault? tally bytes
  | .unfinished => none

def tally? : Charset → Tally → Piece → Option Tally
  | .gbk => gbkTally?
  | .eucJp => eucJpTally?
  | .eucKr => eucKrTally?
  | .shiftJis => shiftJisTally?
  | .big5 => big5Tally?
  | .page _ => fun _ _ => none

def eastAsianPoints? (charset : Charset) (bytes : List UInt8) : Option Int :=
  ((charset.pieces bytes).foldlM charset.tally? {}).map (·.points)

end LanguageDetection.Text.Charset
