import LanguageDetection.Decimal.Shortest
import LanguageDetection.Text.Quoted

namespace LanguageDetection.Log

open LanguageDetection.Text

inductive Level
  | error
  | warn
  | info
  | debug
  | trace
  deriving Repr, DecidableEq

def Level.name : Level → String
  | .error => "ERROR"
  | .warn => "WARN"
  | .info => "INFO"
  | .debug => "DEBUG"
  | .trace => "TRACE"

/-- How many levels matter at least as much. -/
def Level.rank : Level → Nat
  | .error => 1
  | .warn => 2
  | .info => 3
  | .debug => 4
  | .trace => 5

structure Entry where
  level : Level
  target : String
  text : String
  deriving Repr, DecidableEq

namespace Entry

def render (entry : Entry) : String :=
  entry.level.name ++ " " ++ entry.target ++ ": " ++ entry.text

end Entry

def field (name value : String) : String :=
  " " ++ name ++ "=" ++ value

def quotedField (name value : String) : String :=
  field name (quoted value)

def floatStyle : Decimal.Style := ⟨true, some (-3, 16), "NaN", "inf"⟩

def floatField (name : String) (value : Float) : String :=
  field name (floatStyle.write value)

end LanguageDetection.Log
