import LanguageDetection.Text.Take

namespace LanguageDetection.Toml

open LanguageDetection.Text

def isSpace (c : Char) : Bool := c == ' ' || c == '\t'

def isShown (c : Char) : Bool := c == '\t' || (0x20 ≤ c.toNat && c.toNat != 0x7F)

def skipSpace : Take Unit := do
  let _ ← Take.takeWhile isSpace

def newline : Take Unit
  | '\n' :: rest => some ((), rest)
  | '\r' :: '\n' :: rest => some ((), rest)
  | _ => none

def skipComment : Take Unit := do
  if (← Take.peek?) == some '#' then
    let _ ← Take.takeWhile isShown

/-- What may follow on a line: space and a comment, then the end of the line or of the text. -/
def restOfLine : Take Unit := do
  skipSpace
  skipComment
  if (← Take.peek?).isSome then newline

def skipLines : Nat → Take Unit
  | 0 => pure ()
  | fuel + 1 => do
      skipSpace
      skipComment
      if (← Take.attempt newline).isSome then skipLines fuel

def skipBlank : Take Unit := Take.fueled skipLines

end LanguageDetection.Toml
