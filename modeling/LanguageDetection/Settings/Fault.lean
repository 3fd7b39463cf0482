import LanguageDetection.Document
import LanguageDetection.Text.Quoted

namespace LanguageDetection

open LanguageDetection.Text

/-- Where a document comes from, which decides on some finer points of reading. -/
inductive Origin
  | json
  | layers
  deriving Repr, DecidableEq

inductive ReadCause
  | invalidType (found : Document) (expected : String)
  | invalidValue (found : Document) (expected : String)
  | invalidLength (length : Nat) (expected : String)
  | unknownVariant (found : String) (known : List String)
  | missingField (name : String)
  | duplicateField (name : String)
  deriving Repr, Inhabited

/-- What is wrong, and the names and places that lead there from the whole document. -/
structure ReadFault where
  path : List String
  cause : ReadCause
  deriving Repr, Inhabited

def ReadFault.inside (name : String) (fault : ReadFault) : ReadFault :=
  { fault with path := name :: fault.path }

def plainStyle : Decimal.Style := ⟨false, none, "NaN", "inf"⟩

def Document.layerName : Document → String
  | .null => "unit"
  | .bool value => "bool " ++ (if value then "true" else "false")
  | .unsigned value => "unsigned int " ++ ticked (toString value)
  | .signed value => "signed int " ++ ticked (toString value)
  | .float value => "float " ++ ticked (plainStyle.write value)
  | .text value => "string " ++ quoted value
  | .char value => "string " ++ quoted (String.singleton value)
  | .array _ => "sequence"
  | .object _ => "map"

private def alternatives (names : List String) : String :=
  String.intercalate " or " (names.map ticked)

def ReadCause.layerMessage : ReadCause → String
  | .invalidType found expected =>
      "invalid type: found " ++ found.layerName ++ ", expected " ++ expected
  | .invalidValue found expected => "invalid value " ++ found.layerName ++ ", expected " ++ expected
  | .invalidLength length expected =>
      "invalid length " ++ toString length ++ ", expected " ++ expected
  | .unknownVariant found known =>
      "unknown variant: found " ++ ticked found ++ ", expected " ++ ticked (alternatives known)
  | .missingField name => "missing field " ++ ticked name
  | .duplicateField name => "duplicate field " ++ ticked name

end LanguageDetection
