import LanguageDetection.Proofs.Decimal.Numeral

/-!
JSON: values, and a reader of their texts.
-/

namespace LanguageDetection

inductive Json
  | null
  | bool (value : Bool)
  | number (value : ℚ)
  | text (value : String)
  | array (items : List Json)
  | object (fields : List (String × Json))

namespace Json

open LanguageDetection.Decimal

def isBlank (c : Char) : Bool := c == ' ' || c == '\n' || c == '\r' || c == '\t'

def skipBlanks (chars : List Char) : List Char := chars.dropWhile isBlank

def hexValue? (c : Char) : Option ℕ :=
  if c.isDigit then some (c.toNat - 48)
  else if 'a' ≤ c ∧ c ≤ 'f' then some (c.toNat - 87)
  else if 'A' ≤ c ∧ c ≤ 'F' then some (c.toNat - 55)
  else none

def ofCode? (digits : List Char) : Option Char := do
  let code ← digits.foldlM (fun code digit => (hexValue? digit).map (16 * code + ·)) 0
  if code.isValidChar then some (Char.ofNat code) else none

def unescape? (c : Char) : Option Char :=
  [('"', '"'), ('\\', '\\'), ('/', '/'), ('b', '\x08'), ('f', '\x0c'), ('n', '\n'), ('r', '\r'),
    ('t', '\t')].lookup c

/-- The characters of a text after its opening quote, and what follows the closing one. -/
def readText? : List Char → Option (List Char × List Char)
  | [] => none
  | '"' :: rest => some ([], rest)
  | '\\' :: 'u' :: a :: b :: c :: d :: rest => do
      let first ← ofCode? [a, b, c, d]
      let (others, rest) ← readText? rest
      return (first :: others, rest)
  | '\\' :: c :: rest => do
      let first ← unescape? c
      let (others, rest) ← readText? rest
      return (first :: others, rest)
  | c :: rest => do
      let (others, rest) ← readText? rest
      if c.toNat < 0x20 then none else return (c :: others, rest)

section

variable {α : Type} (read : List Char → Option (α × List Char)) (closing : Char)

def readSome? : ℕ → List Char → Option (List α × List Char)
  | 0, _ => none
  | fuel + 1, chars => do
      let (first, rest) ← read chars
      match skipBlanks rest with
      | [] => none
      | c :: rest =>
          if c = closing then return ([first], rest)
          else if c = ',' then do
            let (others, rest) ← readSome? fuel rest
            return (first :: others, rest)
          else none

def readMany? (fuel : ℕ) (chars : List Char) : Option (List α × List Char) :=
  match skipBlanks chars with
  | [] => none
  | c :: rest => if c = closing then some ([], rest) else readSome? read closing fuel (c :: rest)

def readField? (chars : List Char) : Option ((String × α) × List Char) :=
  match skipBlanks chars with
  | '"' :: rest => do
      let (name, rest) ← readText? rest
      match skipBlanks rest with
      | ':' :: rest => do
          let (value, rest) ← read rest
          return ((String.ofList name, value), rest)
      | _ => none
  | _ => none

end

def readWord? : List Char → Option (Json × List Char)
  | 'n' :: 'u' :: 'l' :: 'l' :: rest => some (null, rest)
  | 't' :: 'r' :: 'u' :: 'e' :: rest => some (bool true, rest)
  | 'f' :: 'a' :: 'l' :: 's' :: 'e' :: rest => some (bool false, rest)
  | _ => none

/-- A value and what follows it, with fuel for the depth of its brackets and for what stands in each
of them. -/
def readValue? : ℕ → List Char → Option (Json × List Char)
  | 0, _ => none
  | fuel + 1, chars =>
      match skipBlanks chars with
      | [] => none
      | c :: rest =>
          if c = '"' then
            (readText? rest).map fun (chars, rest) => (text (String.ofList chars), rest)
          else if c = '[' then
            (readMany? (readValue? fuel) ']' fuel rest).map fun (items, rest) => (array items, rest)
          else if c = '\x7b' then
            (readMany? (readField? (readValue? fuel)) '\x7d' fuel rest).map fun (fields, rest) =>
              (object fields, rest)
          else if c = '-' || c.isDigit then
            (readNumeral? (c :: rest)).map fun (value, rest) => (number value, rest)
          else readWord? (c :: rest)

/-- The value that a whole text is, but for blanks around it. -/
def read? (text : String) : Option Json := do
  let (value, rest) ← readValue? (text.length + 1) text.toList
  if skipBlanks rest = [] then some value else none

end Json

end LanguageDetection
