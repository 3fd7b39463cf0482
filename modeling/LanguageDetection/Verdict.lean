namespace LanguageDetection

/-- The name given when no rule matches. -/
def unknownLanguage : String := "unknown"

def fallbackConfidence : Float := 0.3

def extensionConfidence : Float := 0.9

inductive Profile
  | standard
  | compact
  deriving Repr, DecidableEq

def Profile.name : Profile → String
  | .standard => "standard"
  | .compact => "compact"

def Profile.ofName? (name : String) : Option Profile :=
  if name == "standard" then some .standard
  else if name == "compact" then some .compact
  else none

def clampUnit (x : Float) : Float :=
  if x < 0.0 then 0.0 else if 1.0 < x then 1.0 else x

structure Verdict where
  language : String
  confidence : Float
  deriving Repr

namespace Verdict

def new (language : String) (confidence : Float) : Verdict :=
  ⟨language, clampUnit confidence⟩

def unknown : Verdict := new unknownLanguage fallbackConfidence

def isUnknown (verdict : Verdict) : Bool :=
  verdict.language == unknownLanguage

end Verdict

end LanguageDetection
