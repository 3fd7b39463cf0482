import LanguageDetection.Text.Utf8
import LanguageDetection.Unicode.WordChar

/-!
Anchors: the tests of a place in a byte string that consume nothing. A place is the pair of the
bytes before it, nearest first, and the bytes after it.
-/

namespace LanguageDetection.Pattern

open LanguageDetection.Text

inductive Alphabet
  | ascii
  | unicode
  deriving Repr, DecidableEq

inductive WordTest
  | boundary
  | notBoundary
  | start
  | stop
  | startHalf
  | stopHalf
  deriving Repr, DecidableEq

inductive Anchor
  | textStart
  | textEnd
  | lineStart
  | lineEnd
  | crlfLineStart
  | crlfLineEnd
  | word (test : WordTest) (alphabet : Alphabet)
  deriving Repr, DecidableEq

def isWordByte (byte : UInt8) : Bool :=
  (0x61 ≤ byte && byte ≤ 0x7A) || (0x41 ≤ byte && byte ≤ 0x5A)
    || (0x30 ≤ byte && byte ≤ 0x39) || byte == 0x5F

inductive Side
  | bare
  | broken
  | whole (isWord : Bool)
  deriving Repr, DecidableEq

def Side.isWord : Side → Bool
  | .whole isWord => isWord
  | _ => false

def Side.isBroken : Side → Bool
  | .broken => true
  | _ => false

def Side.ofByte : List UInt8 → Side
  | [] => .bare
  | byte :: _ => .whole (isWordByte byte)

def Side.ofChar? (bytes : List UInt8) (char? : Option Char) : Side :=
  match bytes, char? with
  | [], _ => .bare
  | _, none => .broken
  | _, some c => .whole (Unicode.isWordChar c)

def Alphabet.before : Alphabet → List UInt8 → Side
  | .ascii, before => .ofByte before
  | .unicode, before => .ofChar? before (Utf8.last? before)

def Alphabet.after : Alphabet → List UInt8 → Side
  | .ascii, after => .ofByte after
  | .unicode, after => .ofChar? after (Utf8.first? after)

/-- A test that holds where a word character is absent does not hold inside a broken character. -/
def WordTest.holds (test : WordTest) (left right : Side) : Bool :=
  match test with
  | .boundary => left.isWord != right.isWord
  | .notBoundary => !left.isBroken && !right.isBroken && left.isWord == right.isWord
  | .start => !left.isWord && right.isWord
  | .stop => left.isWord && !right.isWord
  | .startHalf => !left.isBroken && !left.isWord
  | .stopHalf => !right.isBroken && !right.isWord

def Anchor.holds (anchor : Anchor) (before after : List UInt8) : Bool :=
  match anchor with
  | .textStart => before.isEmpty
  | .textEnd => after.isEmpty
  | .lineStart => before.isEmpty || before.head? == some 0x0A
  | .lineEnd => after.isEmpty || after.head? == some 0x0A
  | .crlfLineStart =>
      before.isEmpty || before.head? == some 0x0A
        || (before.head? == some 0x0D && after.head? != some 0x0A)
  | .crlfLineEnd =>
      after.isEmpty || after.head? == some 0x0D
        || (after.head? == some 0x0A && before.head? != some 0x0D)
  | .word test alphabet => test.holds (alphabet.before before) (alphabet.after after)

end LanguageDetection.Pattern
