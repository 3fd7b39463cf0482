import LanguageDetection.Toml.Space

namespace LanguageDetection.Toml

open LanguageDetection.Text

def isHexDigit (c : Char) : Bool :=
  c.isDigit || ('a' ≤ c && c ≤ 'f') || ('A' ≤ c && c ≤ 'F')

def hexDigitValue (c : Char) : Nat :=
  if c.isDigit then c.toNat - 48 else if 'a' ≤ c then c.toNat - 87 else c.toNat - 55

def valueOf (base : Nat) (digits : List Char) : Nat :=
  digits.foldl (fun n c => n * base + hexDigitValue c) 0

def codePoint (count : Nat) (rest : List Char) : Option (Char × List Char) :=
  let digits := rest.take count
  let n := valueOf 16 digits
  if digits.length == count && digits.all isHexDigit && n.isValidChar then
    some (Char.ofNat n, rest.drop count)
  else none

def escaped : Take Char
  | 'b' :: rest => some ('\x08', rest)
  | 't' :: rest => some ('\t', rest)
  | 'n' :: rest => some ('\n', rest)
  | 'f' :: rest => some ('\x0c', rest)
  | 'r' :: rest => some ('\r', rest)
  | '"' :: rest => some ('"', rest)
  | '\\' :: rest => some ('\\', rest)
  | 'u' :: rest => codePoint 4 rest
  | 'U' :: rest => codePoint 8 rest
  | _ => none

def basicBody : Nat → List Char → Take String
  | 0, _ => Take.fail
  | fuel + 1, written => do
      let c ← Take.satisfy isShown
      if c == '"' then return String.ofList written.reverse
      else if c == '\\' then basicBody fuel ((← escaped) :: written)
      else basicBody fuel (c :: written)

def literalBody : Nat → List Char → Take String
  | 0, _ => Take.fail
  | fuel + 1, written => do
      let c ← Take.satisfy isShown
      if c == '\'' then return String.ofList written.reverse
      else literalBody fuel (c :: written)

def dropBreaks : List Char → List Char
  | [] => []
  | '\r' :: '\n' :: rest => dropBreaks rest
  | c :: rest => if isSpace c || c == '\n' then dropBreaks rest else c :: rest

/-- After a backslash: space to the end of the line, and the blank lines and space that follow. -/
def foldLine : Take Unit := do
  skipSpace
  newline
  modify dropBreaks

/-- Three marks end a string of several lines. Up to two that stand before them belong to it. -/
def longBody (mark : Char) : Nat → List Char → Take String
  | 0, _ => Take.fail
  | fuel + 1, written => do
      match ← Take.attempt newline with
      | some () => longBody mark fuel ('\n' :: written)
      | none =>
          let marks ← Take.takeWhile (· == mark)
          if 5 < marks.length then Take.fail
          else if 3 ≤ marks.length then
            return String.ofList ((marks.drop 3 ++ written).reverse)
          else if !marks.isEmpty then longBody mark fuel (marks ++ written)
          else
            let c ← Take.satisfy isShown
            if c == '\\' && mark == '"' then
              match ← Take.attempt foldLine with
              | some () => longBody mark fuel written
              | none => longBody mark fuel ((← escaped) :: written)
            else longBody mark fuel (c :: written)

def shortString : Take String := do
  match ← Take.peek? with
  | some '"' =>
      Take.char '"'
      Take.fueled fun fuel => basicBody fuel []
  | some '\'' =>
      Take.char '\''
      Take.fueled fun fuel => literalBody fuel []
  | _ => Take.fail

def longString (mark : Char) : Take String := do
  Take.chars [mark, mark, mark]
  let _ ← Take.attempt newline
  Take.fueled fun fuel => longBody mark fuel []

def string : Take String :=
  longString '"' <|> longString '\'' <|> shortString

def isKeyChar (c : Char) : Bool := c.isAlphanum || c == '_' || c == '-'

def simpleKey : Take String := do
  match ← Take.peek? with
  | some '"' => shortString
  | some '\'' => shortString
  | _ =>
      let word ← Take.takeWhile isKeyChar
      if word.isEmpty then Take.fail else return String.ofList word

def moreKeys : Nat → Take (List String)
  | 0 => Take.fail
  | fuel + 1 => do
      skipSpace
      let key ← simpleKey
      skipSpace
      if (← Take.attempt (Take.char '.')).isSome then return key :: (← moreKeys fuel)
      else return [key]

def depthLimit : Nat := 80

def key : Take (List String) := do
  let parts ← Take.fueled moreKeys
  if parts.length < depthLimit then return parts else Take.fail

end LanguageDetection.Toml
