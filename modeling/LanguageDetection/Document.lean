import LanguageDetection.Decimal.Shortest

namespace LanguageDetection

inductive Document
  | null
  | bool (value : Bool)
  | unsigned (value : Nat)
  | signed (value : Int)
  | float (value : Float)
  | text (value : String)
  | char (value : Char)
  | array (items : List Document)
  | object (fields : List (String × Document))
  deriving Repr, Inhabited

namespace Document

def ofInt (n : Int) : Document :=
  if 0 ≤ n then .unsigned n.toNat else .signed n

def hexDigit (n : Nat) : Char :=
  if n < 10 then Char.ofNat (48 + n) else Char.ofNat (87 + n)

/-- A character inside a JSON string. Controls are escaped, by their letter if they have one. -/
def escapeChar (c : Char) : List Char :=
  if c == '"' then ['\\', '"']
  else if c == '\\' then ['\\', '\\']
  else if c == '\n' then ['\\', 'n']
  else if c == '\r' then ['\\', 'r']
  else if c == '\t' then ['\\', 't']
  else if c == '\x08' then ['\\', 'b']
  else if c == '\x0c' then ['\\', 'f']
  else if c.toNat < 0x20 then
    ['\\', 'u', '0', '0', hexDigit (c.toNat / 16), hexDigit (c.toNat % 16)]
  else [c]

def quote (text : String) : String :=
  "\"" ++ String.ofList (text.toList.flatMap escapeChar) ++ "\""

/-- Numbers in JSON: an integral double ends in `.0`, and one that is very large or small has an
exponent. What is not finite is null. -/
def floatStyle : Decimal.Style := ⟨true, some (-4, 16), "null", "null"⟩

def floatText (x : Float) : String :=
  match Decimal.Parts.ofBits x.toBits with
  | .finite .. => floatStyle.write x
  | _ => "null"

/-- How the parts of arrays and objects are set apart: not at all, or each on a line of its own, two
spaces deeper than what holds it. -/
inductive Layout
  | compact
  | pretty (depth : Nat)
  deriving Repr, DecidableEq

namespace Layout

def inner : Layout → Layout
  | .compact => .compact
  | .pretty depth => .pretty (depth + 1)

def lineBreak : Layout → String
  | .compact => ""
  | .pretty depth => String.ofList ('\n' :: List.replicate (2 * depth) ' ')

def colon : Layout → String
  | .compact => ":"
  | .pretty _ => ": "

def enclose (layout : Layout) (opening closing : Char) (parts : List String) : String :=
  let inside := match parts with
    | [] => ""
    | first :: rest =>
        layout.inner.lineBreak
          ++ String.intercalate ("," ++ layout.inner.lineBreak) (first :: rest) ++ layout.lineBreak
  String.singleton opening ++ inside ++ String.singleton closing

end Layout

mutual
def write (layout : Layout) : Document → String
  | .null => "null"
  | .bool value => if value then "true" else "false"
  | .unsigned value => toString value
  | .signed value => toString value
  | .float value => floatText value
  | .text value => quote value
  | .char value => quote (String.singleton value)
  | .array items => layout.enclose '[' ']' (writeItems layout.inner items)
  | .object fields => layout.enclose '\x7b' '\x7d' (writeFields layout.inner fields)

def writeItems (layout : Layout) : List Document → List String
  | [] => []
  | item :: rest => item.write layout :: writeItems layout rest

def writeFields (layout : Layout) : List (String × Document) → List String
  | [] => []
  | (name, value) :: rest =>
      (quote name ++ layout.colon ++ value.write layout) :: writeFields layout rest
end

end Document

end LanguageDetection
