import LanguageDetection.Dictionary
import LanguageDetection.Extension
import LanguageDetection.Signature.Rule

namespace LanguageDetection

/-- Weights add up to at most the greatest weight. -/
def addWeights (a b : UInt32) : UInt32 :=
  if a.toNat + b.toNat < UInt32.size then a + b else UInt32.ofNat (UInt32.size - 1)

structure Language where
  id : String
  rules : List Rule
  deriving Repr

def weightOf (rules : List Rule) : UInt32 :=
  rules.foldl (fun total rule => addWeights total rule.weight) 0

/-- The best score that a language can reach. -/
def Language.totalWeight (language : Language) : UInt32 :=
  weightOf language.rules

structure Registry where
  languages : List Language
  index : Dictionary Nat
  extensions : Dictionary String
  deriving Repr

namespace Registry

def ids (registry : Registry) : List String :=
  registry.languages.map (·.id)

def places (languages : List Language) : Dictionary Nat :=
  .ofList (languages.zipIdx.map fun (language, place) => (language.id, place))

def language? (registry : Registry) (id : String) : Option Language :=
  (registry.index.find? id).bind (registry.languages[·]?)

def rules? (registry : Registry) (id : String) : Option (List Rule) :=
  (registry.language? id).map (·.rules)

/-- The language that an extension points to, however the extension is spelled. -/
def languageForExtension? (registry : Registry) (extension : String) : Option String :=
  (Extension.normalize? extension).bind registry.extensions.find?

end Registry

end LanguageDetection
