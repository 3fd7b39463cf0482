import LanguageDetection.Settings.Basic
import LanguageDetection.Signature.Registry
import LanguageDetection.Text.Quoted

/-!
Drafts: languages, rules and extensions are declared step by step, and checked when a registry is
built from them.
-/

namespace LanguageDetection

open LanguageDetection.Pattern
open LanguageDetection.Text

inductive RegistryError
  | empty
  | emptyLanguageId
  | duplicateLanguage (id : String)
  | unreachable (id : String)
  | invalidPattern (language pattern : String) (reason : PatternError)
  | zeroWeight (language pattern : String)
  | malformedExtension (raw : String)
  | undeclaredLanguage (extension language : String)
  deriving Repr, DecidableEq

def RegistryError.message : RegistryError → String
  | .empty => "signature registry is empty"
  | .emptyLanguageId => "language identifier must not be empty"
  | .duplicateLanguage id => "language " ++ ticked id ++ " is declared more than once"
  | .unreachable id => "language " ++ ticked id ++ " has no rules and no extensions"
  | .invalidPattern language pattern _ =>
      "invalid pattern " ++ ticked pattern ++ " for language " ++ ticked language
  | .zeroWeight language pattern =>
      "rule " ++ ticked pattern ++ " for language " ++ ticked language ++ " has zero weight"
  | .malformedExtension raw => "malformed extension " ++ ticked raw
  | .undeclaredLanguage extension language =>
      "extension " ++ ticked extension ++ " maps to undeclared language " ++ ticked language

def RegistryError.cause? : RegistryError → Option String
  | .invalidPattern _ _ reason => some reason.message
  | _ => none

inductive Step
  | language (id : String) (patterns : List String)
  /-- A rule; its language is declared too if it is new. -/
  | rule (id pattern : String) (weight : UInt32)
  /-- An extension of a language. A later one for the same extension replaces it. -/
  | extension (extension id : String)
  | settings (settings : Settings)
  deriving Repr

structure DraftLanguage where
  id : String
  rules : List (String × UInt32)
  deriving Repr, DecidableEq

structure Draft where
  languages : List DraftLanguage := []
  extensions : List (String × String) := []
  duplicates : List String := []
  deriving Repr, DecidableEq

namespace Draft

def declares (draft : Draft) (id : String) : Bool :=
  draft.languages.any (·.id == id)

def declare (draft : Draft) (id : String) : Draft :=
  if draft.declares id then draft
  else { draft with languages := draft.languages ++ [⟨id, []⟩] }

def addLanguage (draft : Draft) (id : String) (patterns : List String) : Draft :=
  if draft.declares id then { draft with duplicates := draft.duplicates ++ [id] }
  else { draft with languages := draft.languages ++ [⟨id, patterns.map fun p => (p, 1)⟩] }

def addRule (draft : Draft) (id pattern : String) (weight : UInt32) : Draft :=
  let draft := draft.declare id
  { draft with languages := draft.languages.map fun language =>
      if language.id == id then { language with rules := language.rules ++ [(pattern, weight)] }
      else language }

def addExtension (draft : Draft) (extension id : String) : Draft :=
  { draft with extensions := draft.extensions ++ [(extension, id)] }

def addCustomLanguage (draft : Draft) (custom : CustomLanguage) : Draft :=
  let id := trim custom.name
  let draft := custom.rules.foldl (fun draft rule => draft.addRule id rule.pattern rule.weight)
    (draft.declare id)
  custom.extensions.foldl (fun draft extension => draft.addExtension extension id) draft

def addSettings (draft : Draft) (settings : Settings) : Draft :=
  let draft := settings.languages.foldl addCustomLanguage draft
  settings.extensions.foldl (fun draft (extension, id) => draft.addExtension extension id) draft

def apply (draft : Draft) : Step → Draft
  | .language id patterns => draft.addLanguage id patterns
  | .rule id pattern weight => draft.addRule id pattern weight
  | .extension extension id => draft.addExtension extension id
  | .settings settings => draft.addSettings settings

def applyAll (draft : Draft) (steps : List Step) : Draft :=
  steps.foldl apply draft

def buildRule (language : String) (rule : String × UInt32) : Except RegistryError Rule :=
  if rule.2 = 0 then .error (.zeroWeight language rule.1)
  else match Rule.ofPattern rule.1 rule.2 with
    | .ok built => .ok built
    | .error reason => .error (.invalidPattern language rule.1 reason)

def buildLanguage (language : DraftLanguage) : Except RegistryError Language :=
  if language.id.isEmpty then .error .emptyLanguageId
  else do
    let rules ← language.rules.mapM (buildRule language.id)
    return ⟨language.id, rules⟩

/-- An extension that is taken from one language and given to another. -/
structure Remapping where
  extension : String
  previous : String
  next : String
  deriving Repr, DecidableEq

def buildExtension (ids : List String) (mapping : String × String) :
    Except RegistryError (String × String) :=
  match (Extension.normalize? mapping.1).filter Extension.isWellFormed with
  | none => .error (.malformedExtension mapping.1)
  | some extension =>
      if ids.contains mapping.2 then .ok (extension, mapping.2)
      else .error (.undeclaredLanguage extension mapping.2)

def buildExtensions (ids : List String) (mappings : List (String × String)) :
    Except RegistryError (Dictionary String) := do
  let built ← mappings.mapM (buildExtension ids)
  return .ofList built

def isReachable (extensions : Dictionary String) (language : Language) : Bool :=
  !language.rules.isEmpty || extensions.any (·.2 == language.id)

def build (draft : Draft) : Except RegistryError Registry :=
  if draft.languages.isEmpty then .error .empty
  else match draft.duplicates with
    | id :: _ => .error (.duplicateLanguage id)
    | [] => do
        let languages ← draft.languages.mapM buildLanguage
        let extensions ← buildExtensions (languages.map (·.id)) draft.extensions
        match languages.find? fun language => !isReachable extensions language with
        | some language => .error (.unreachable language.id)
        | none => .ok ⟨languages, Registry.places languages, extensions⟩

/-- The extensions that change hands while mappings are laid down, up to the first that cannot be.
-/
def remappingsFrom (ids : List String) (known : Dictionary String) :
    List (String × String) → List Remapping
  | [] => []
  | mapping :: rest =>
      match buildExtension ids mapping with
      | .error _ => []
      | .ok (extension, id) =>
          let later := remappingsFrom ids (known.insert extension id) rest
          match known.find? extension with
          | some previous => if previous == id then later else ⟨extension, previous, id⟩ :: later
          | none => later

def remappings (draft : Draft) : List Remapping :=
  if draft.languages.isEmpty || !draft.duplicates.isEmpty then []
  else match draft.languages.mapM buildLanguage with
    | .error _ => []
    | .ok languages => remappingsFrom (languages.map (·.id)) [] draft.extensions

end Draft

end LanguageDetection
