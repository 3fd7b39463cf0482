import LanguageDetection.Toml.Number
import LanguageDetection.Toml.Table

namespace LanguageDetection.Toml

open LanguageDetection.Text

def momentField : String := "$__toml_private_datetime"

def leaf : Take Document := do
  match ← Take.peek? with
  | none => Take.fail
  | some c =>
      if c == '"' || c == '\'' then return .text (← string)
      else if c == 't' then
        Take.chars "true".toList
        return .bool true
      else if c == 'f' then
        Take.chars "false".toList
        return .bool false
      else
        (do return .object [(momentField, .text (← moment))])
          <|> (do return .float (← float))
          <|> (do return .signed (← integer))

def splitKey (key : List String) : List String × String :=
  (key.dropLast, key.getLast?.getD "")

def items (item : Take Document) : Nat → Take (List Document)
  | 0 => Take.fail
  | fuel + 1 => do
      skipBlank
      if (← Take.attempt (Take.char ']')).isSome then return []
      let first ← item
      skipBlank
      if (← Take.attempt (Take.char ',')).isSome then return first :: (← items item fuel)
      Take.char ']'
      return [first]

def fieldsOfLine (item : Take Document) : Nat → Fields → Take Fields
  | 0, _ => Take.fail
  | fuel + 1, known => do
      let (path, name) := splitKey (← key)
      Take.char '='
      skipSpace
      let value ← item
      skipSpace
      match addValue path name value .header known with
      | none => Take.fail
      | some fields =>
          if (← Take.attempt (Take.char ',')).isSome then fieldsOfLine item fuel fields
          else
            Take.char '\x7d'
            return fields

def array (item : Take Document) : Take Document := do
  Take.char '['
  return .array (← Take.fueled (items item))

def inlineTable (item : Take Document) : Take Document := do
  Take.char '\x7b'
  if (← Take.attempt (do skipSpace; Take.char '\x7d')).isSome then return .object []
  let fields ← Take.fueled fun fuel => fieldsOfLine item fuel []
  return (Node.table .header fields).toDocument

/-- A value with at most `depth` levels of parts. -/
def value : Nat → Take Document
  | 0 => do
      match ← Take.peek? with
      | some '[' => Take.fail
      | some '\x7b' => Take.fail
      | _ => leaf
  | depth + 1 => do
      match ← Take.peek? with
      | some '[' => array (value depth)
      | some '\x7b' => inlineTable (value depth)
      | _ => leaf

def topValue : Take Document := value (depthLimit - 1)

end LanguageDetection.Toml
