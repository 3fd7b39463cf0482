import LanguageDetection.Text.Charset.Table.Gbk
import LanguageDetection.Text.Charset.Table.FourByteRuns
import LanguageDetection.Text.Charset.Table.EucKr
import LanguageDetection.Text.Charset.Table.Big5
import LanguageDetection.Text.Charset.Table.Jis0208
import LanguageDetection.Text.Charset.Table.Jis0212
import LanguageDetection.Text.Charset.Table.CodePages
import LanguageDetection.Text.Utf8

/-!
Charsets older than Unicode. Each of them is ASCII below 0x80; above, a byte is a character by
itself or leads a character of up to four bytes.
-/

namespace LanguageDetection.Text

structure CodePage where
  name : String
  table : Charset.Grid
  deriving Repr

def CodePage.char? (codePage : CodePage) (byte : UInt8) : Option Char :=
  codePage.table.char? ((byte - 0x80).toNat / 16) ((byte - 0x80).toNat % 16)

inductive Charset
  | gbk
  | eucJp
  | eucKr
  | shiftJis
  | big5
  | page (codePage : CodePage)
  deriving Repr

namespace Charset

def name : Charset → String
  | .gbk => "GBK"
  | .eucJp => "EUC-JP"
  | .eucKr => "EUC-KR"
  | .shiftJis => "Shift_JIS"
  | .big5 => "Big5"
  | .page codePage => codePage.name

inductive Piece
  | ascii (byte : UInt8)
  | chars (bytes : List UInt8) (text : List Char)
  /-- Bytes that are no character. What follows the first of them may still be part of the next
  piece. -/
  | fault (bytes : List UInt8)
  | unfinished
  deriving Repr, DecidableEq

namespace Piece

def text : Piece → List Char
  | .ascii byte => [Char.ofNat byte.toNat]
  | .chars _ text => text
  | .fault _ => [Utf8.replacement]
  | .unfinished => [Utf8.replacement]

def isDamaged : Piece → Bool
  | .fault _ => true
  | .unfinished => true
  | _ => false

end Piece

def column? (first gap resume trail : UInt8) : Option Nat :=
  if first ≤ trail && trail < gap then some (trail - first).toNat
  else if resume ≤ trail then some ((trail - resume).toNat + (gap - first).toNat)
  else none

def privateChar (area width row column : Nat) : Char :=
  Char.ofNat (area + row * width + column)

def gbkPrivate? (lead trail : UInt8) (column : Nat) : Option Char :=
  if 0xAA ≤ lead && lead ≤ 0xAF && 0xA1 ≤ trail then
    some (privateChar 0xE000 94 (lead - 0xAA).toNat (trail - 0xA1).toNat)
  else if 0xF8 ≤ lead && 0xA1 ≤ trail then
    some (privateChar 0xE234 94 (lead - 0xF8).toNat (trail - 0xA1).toNat)
  else if 0xA1 ≤ lead && lead ≤ 0xA7 && trail ≤ 0xA0 then
    some (privateChar 0xE4C6 96 (lead - 0xA1).toNat column)
  else none

def gbkPair? (lead trail : UInt8) : Option Char := do
  let column ← column? 0x40 0x7F 0x80 trail
  if column < 190 then
    (Table.gbk.char? (lead - 0x81).toNat column).or (gbkPrivate? lead trail column)
  else none

def eucKrPair? (lead trail : UInt8) : Option Char :=
  if trail < 0x41 then none
  else Table.eucKr.char? (lead - 0x81).toNat (trail - 0x41).toNat

/-- What two bytes of Big5 are: for four pairs a letter and a mark above it. -/
def big5Pair? (lead trail : UInt8) : Option (List Char) :=
  match lead, trail with
  | 0x88, 0x62 => some ['Ê', '\u0304']
  | 0x88, 0x64 => some ['Ê', '\u030C']
  | 0x88, 0xA3 => some ['ê', '\u0304']
  | 0x88, 0xA5 => some ['ê', '\u030C']
  | _, _ =>
      if lead < 0x87 then none
      else do
        return [← Table.big5.char? (lead - 0x87).toNat (← column? 0x40 0x7F 0xA1 trail)]

def jisChar? (cell : Nat) : Option Char :=
  Table.jis0208.char? (cell / 94) (cell % 94)

def firstPrivateCell : Nat := 8836

def lastPrivateCell : Nat := 10715

def shiftJisCell? (lead trail : UInt8) : Option Nat := do
  let column ← column? 0x40 0x7F 0x80 trail
  let row := if lead < 0xA0 then (lead - 0x81).toNat else (lead - 0xC1).toNat
  if column < 188 then some (row * 188 + column) else none

def shiftJisPair? (lead trail : UInt8) : Option Char := do
  let cell ← shiftJisCell? lead trail
  if firstPrivateCell ≤ cell && cell ≤ lastPrivateCell then
    some (privateChar 0xE000 188 0 (cell - firstPrivateCell))
  else jisChar? cell

def halfWidth? (byte : UInt8) : Option Char :=
  if 0xA1 ≤ byte && byte ≤ 0xDF then some (Char.ofNat (0xFF61 + (byte - 0xA1).toNat)) else none

def isEucByte (byte : UInt8) : Bool := 0xA1 ≤ byte && byte ≤ 0xFE

def eucChar? (table : Grid) (row column : UInt8) : Option Char :=
  if isEucByte row && isEucByte column then
    table.char? (row - 0xA1).toNat (column - 0xA1).toNat
  else none

def isAsciiDigit (byte : UInt8) : Bool := 0x30 ≤ byte && byte ≤ 0x39

def fourByteNumber (first second third fourth : UInt8) : Nat :=
  (first - 0x81).toNat * 12600 + (second - 0x30).toNat * 1260 + (third - 0x81).toNat * 10
    + (fourth - 0x30).toNat

def firstAstralNumber : Nat := 189000

/-- The character of a number: in the basic plane by runs, above it one after another. -/
def fourByteChar? (number : Nat) : Option Char :=
  if firstAstralNumber ≤ number then
    let code := 0x10000 + (number - firstAstralNumber)
    if code ≤ 0x10FFFF then some (Char.ofNat code) else none
  else if number < 39420 then
    ((Table.fourByteRuns.takeWhile fun run => run.1 ≤ number).getLast?).map fun run =>
      Char.ofNat (run.2 + (number - run.1))
  else none

/-- The piece that a lead byte and a trail byte are, with the number of bytes that it takes after
the lead. An ASCII byte that is no trail is left for the next piece. -/
def pair (read : UInt8 → UInt8 → Option (List Char)) (lead : UInt8) :
    List UInt8 → Piece × Nat
  | [] => (.unfinished, 0)
  | trail :: _ => match read lead trail with
    | some text => (.chars [lead, trail] text, 1)
    | none => (.fault [lead, trail], if trail < 0x80 then 0 else 1)

def pairOfOne (read : UInt8 → UInt8 → Option Char) : UInt8 → List UInt8 → Piece × Nat :=
  pair fun lead trail => (read lead trail).map ([·])

def gbkFour (lead digit : UInt8) : List UInt8 → Piece × Nat
  | [] => (.unfinished, 1)
  | third :: rest =>
      if third < 0x81 || third == 0xFF then (.fault [lead, digit, third], 0)
      else match rest with
        | [] => (.unfinished, 2)
        | fourth :: _ =>
            let bytes := [lead, digit, third, fourth]
            if !isAsciiDigit fourth then (.fault bytes, 0)
            else match fourByteChar? (fourByteNumber lead digit third fourth) with
              | some c => (.chars bytes [c], 3)
              | none => (.fault bytes, 3)

def gbkPiece (lead : UInt8) (rest : List UInt8) : Piece × Nat :=
  if lead == 0x80 then (.chars [lead] ['€'], 0)
  else if lead == 0xFF then (.fault [lead], 0)
  else match rest with
    | digit :: rest' =>
        if isAsciiDigit digit then gbkFour lead digit rest' else pairOfOne gbkPair? lead rest
    | [] => (.unfinished, 0)

def eucJpThree (lead : UInt8) : List UInt8 → Piece × Nat
  | [] => (.unfinished, 0)
  | row :: rest =>
      if !isEucByte row then (.fault [lead, row], if row < 0x80 then 0 else 1)
      else match rest with
        | [] => (.unfinished, 1)
        | column :: _ => match eucChar? Table.jis0212 row column with
          | some c => (.chars [lead, row, column] [c], 2)
          | none => (.fault [lead, row, column], if column < 0x80 then 1 else 2)

def eucJpPiece (lead : UInt8) (rest : List UInt8) : Piece × Nat :=
  if lead == 0x8E then pairOfOne (fun _ trail => halfWidth? trail) lead rest
  else if lead == 0x8F then eucJpThree lead rest
  else if isEucByte lead then pairOfOne (eucChar? Table.jis0208) lead rest
  else (.fault [lead], 0)

def eucKrPiece (lead : UInt8) (rest : List UInt8) : Piece × Nat :=
  if lead == 0x80 || lead == 0xFF then (.fault [lead], 0) else pairOfOne eucKrPair? lead rest

def shiftJisPiece (lead : UInt8) (rest : List UInt8) : Piece × Nat :=
  if lead == 0x80 then (.chars [lead] ['\u0080'], 0)
  else match halfWidth? lead with
    | some c => (.chars [lead] [c], 0)
    | none =>
        if lead == 0xA0 || 0xFD ≤ lead then (.fault [lead], 0)
        else pairOfOne shiftJisPair? lead rest

def big5Piece (lead : UInt8) (rest : List UInt8) : Piece × Nat :=
  if lead == 0x80 || lead == 0xFF then (.fault [lead], 0) else pair big5Pair? lead rest

/-- A byte of a page. Those that are no character of it are controls up to 0x9F. -/
def pagePiece (codePage : CodePage) (byte : UInt8) : Piece :=
  match codePage.char? byte with
  | some c => .chars [byte] [c]
  | none => if byte < 0xA0 then .chars [byte] [Char.ofNat byte.toNat] else .fault [byte]

def piece (charset : Charset) (byte : UInt8) (rest : List UInt8) : Piece × Nat :=
  if byte < 0x80 then (.ascii byte, 0)
  else match charset with
    | .gbk => gbkPiece byte rest
    | .eucJp => eucJpPiece byte rest
    | .eucKr => eucKrPiece byte rest
    | .shiftJis => shiftJisPiece byte rest
    | .big5 => big5Piece byte rest
    | .page codePage => (pagePiece codePage byte, 0)

/-- Reads bytes after the pieces of `read`, which are in reverse. The first `taken` bytes are part
of the last of them. -/
def readFrom (charset : Charset) (read : List Piece) (taken : Nat) : List UInt8 → List Piece
  | [] => read.reverse
  | byte :: rest => match taken with
    | taken + 1 => charset.readFrom read taken rest
    | 0 =>
        let (first, further) := charset.piece byte rest
        charset.readFrom (first :: read) further rest

def pieces (charset : Charset) (bytes : List UInt8) : List Piece :=
  charset.readFrom [] 0 bytes

end Charset

end LanguageDetection.Text
