import LanguageDetection.Settings.Reading
import LanguageDetection.Text.Take

/-!
Settings in environment variables. What follows `LANGSNIFF_` in the name of a variable is the path
of a setting, with dots between its parts; the value is written in a notation of its own.
-/

namespace LanguageDetection.Variables

open LanguageDetection.Text

def isSpace (c : Char) : Bool :=
  c == ' ' || c == '\t' || c == '\n' || c == '\r' || c == '\x0c'

def skipSpace : Take Unit := do
  let _ ← Take.takeWhile isSpace

/-- What stands between quotes, and what follows. A backslash keeps a quote from ending it. -/
def quotedBody : List Char → Option (List Char × List Char)
  | [] => none
  | '"' :: rest => some ([], rest)
  | '\\' :: c :: rest => (quotedBody rest).map fun (body, rest) => ('\\' :: c :: body, rest)
  | c :: rest => (quotedBody rest).map fun (body, rest) => (c :: body, rest)

def hexDigit? (c : Char) : Option Nat :=
  if c.isDigit then some (c.toNat - 48)
  else if 'a' ≤ c && c ≤ 'f' then some (c.toNat - 87)
  else if 'A' ≤ c && c ≤ 'F' then some (c.toNat - 55)
  else none

def codePoint? (count : Nat) (chars : List Char) : Option Char := do
  let digits ← (chars.take count).mapM hexDigit?
  let n := digits.foldl (fun n d => n * 16 + d) 0
  if digits.length == count && n.isValidChar then some (Char.ofNat n) else none

def unescape : Nat → List Char → Option (List Char)
  | 0, _ => some []
  | _ + 1, [] => some []
  | fuel + 1, '\\' :: c :: rest =>
      match c with
      | '"' => (unescape fuel rest).map ('"' :: ·)
      | '\\' => (unescape fuel rest).map ('\\' :: ·)
      | 'b' => (unescape fuel rest).map ('\x08' :: ·)
      | 'f' => (unescape fuel rest).map ('\x0c' :: ·)
      | 'n' => (unescape fuel rest).map ('\n' :: ·)
      | 'r' => (unescape fuel rest).map ('\r' :: ·)
      | 't' => (unescape fuel rest).map ('\t' :: ·)
      | 'u' => do
          let c ← codePoint? 4 rest
          (unescape fuel (rest.drop 4)).map (c :: ·)
      | 'U' => do
          let c ← codePoint? 8 rest
          (unescape fuel (rest.drop 8)).map (c :: ·)
      | _ => none
  | fuel + 1, c :: rest =>
      if c == '\\' then none
      else if c == '\t' || (0x20 ≤ c.toNat && c.toNat != 0x7F) then
        (unescape fuel rest).map (c :: ·)
      else none

def string : Take String := do
  Take.char '"'
  let body ← quotedBody
  match unescape (body.length + 1) body with
  | some chars => return String.ofList chars
  | none => Take.fail

def isSeparator (c : Char) : Bool :=
  c == ',' || c == '\x7b' || c == '\x7d' || c == '[' || c == ']'

def isKeyChar (c : Char) : Bool := c.isAlphanum || c == '_' || c == '-'

def natural? (digits : List Char) : Option Nat :=
  if !digits.isEmpty && digits.all Char.isDigit then
    some (digits.foldl (fun n c => n * 10 + (c.toNat - 48)) 0)
  else none

def integer? (chars : List Char) : Option Document :=
  match chars with
  | '-' :: digits => (natural? digits).bind fun n =>
      if Int64.minValue.toInt ≤ -(n : Int) then some (.signed (-(n : Int))) else none
  | '+' :: digits => (natural? digits).bind positive?
  | digits => (natural? digits).bind positive?
where
  positive? (n : Nat) : Option Document :=
    if n < UInt64.size then some (.unsigned n) else none

/-- A word without quotes: a number if it can be read as one. -/
def word (chars : List Char) : Document :=
  let text := String.ofList (trimChars chars)
  let float? := if text.contains '.' then Decimal.read? text else none
  match float? with
  | some x => .float x
  | none => (integer? text.toList).getD (.text text)

def quotedChar : Take Document := do
  Take.char '\''
  let c ← Take.satisfy fun _ => true
  Take.char '\''
  return .char c

def key : Take String := do
  if (← Take.peek?) == some '"' then string
  else
    let word ← Take.takeWhile isKeyChar
    if word.isEmpty then Take.fail else return String.ofList word

def leaf : Take Document :=
  (do
    Take.chars "true".toList
    return .bool true)
  <|> (do
    Take.chars "false".toList
    return .bool false)
  <|> (do
    match ← Take.peek? with
    | some '"' => return .text (← string)
    | some '\'' => quotedChar
    | _ => return word (← Take.takeWhile fun c => !isSeparator c))

mutual
def value : Nat → Take Document
  | 0 => Take.fail
  | fuel + 1 => do
      skipSpace
      let result ← match ← Take.peek? with
        | some '[' =>
            Take.char '['
            let items ← items fuel
            pure (Document.array items)
        | some '\x7b' =>
            Take.char '\x7b'
            let fields ← fields fuel
            pure (Document.object (Dictionary.ofList fields))
        | _ => leaf
      skipSpace
      return result

def items : Nat → Take (List Document)
  | 0 => Take.fail
  | fuel + 1 => do
      match ← Take.attempt (Take.char ']') with
      | some () => return []
      | none =>
          let item ← value fuel
          match ← Take.attempt (Take.char ',') with
          | some () => return item :: (← items fuel)
          | none =>
              Take.char ']'
              return [item]

def fields : Nat → Take (List (String × Document))
  | 0 => Take.fail
  | fuel + 1 => do
      match ← Take.attempt (Take.char '\x7d') with
      | some () => return []
      | none =>
          skipSpace
          let name ← key
          skipSpace
          Take.char '='
          let item ← value fuel
          match ← Take.attempt (Take.char ',') with
          | some () => return (name, item) :: (← fields fuel)
          | none =>
              Take.char '\x7d'
              return [(name, item)]
end

/-- The document that the value of a variable stands for: the text itself if it is not well-formed.
-/
def documentOf (text : String) : Document :=
  let chars := text.toList
  match value (2 * chars.length + 2) chars with
  | some (document, []) => document
  | _ => .text text

def nameStart : String := "LANGSNIFF_"

/-- The path of the setting that a variable gives a value to, if it is one of ours. -/
def pathOf? (name : String) : Option (List String) :=
  let chars := trimChars name.toList
  let start := chars.take nameStart.length
  if String.ofList (start.map Char.toUpper) == nameStart then
    let rest := (trimChars (chars.drop nameStart.length)).map Char.toLower
    let parts := (splitChars '.' rest).map String.ofList
    if parts.any String.isEmpty then none else some parts
  else none

def nest : List String → Document → Document
  | [], value => value
  | name :: path, value => .object [(name, nest path value)]

end LanguageDetection.Variables
