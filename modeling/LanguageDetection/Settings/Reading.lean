import LanguageDetection.Extension
import LanguageDetection.Settings.Basic
import LanguageDetection.Settings.Fault
import LanguageDetection.Text.Split

/-!
Reading settings from a document. The fields of an object are taken in their order; a structure may
also be given as an array of its fields.
-/

namespace LanguageDetection

open LanguageDetection.Text

abbrev Reading (α : Type) := Except ReadFault α

def ReadCause.fail (cause : ReadCause) : Reading α :=
  .error ⟨[], cause⟩

def mismatch (found : Document) (expected : String) : Reading α :=
  (ReadCause.invalidType found expected).fail

def within (name : String) (reading : Reading α) : Reading α :=
  reading.mapError (·.inside name)

namespace Document

def readBool : Document → Reading Bool
  | .bool value => .ok value
  | other => mismatch other "a boolean"

def readText : Document → Reading String
  | .text value => .ok value
  | .char value => .ok (String.singleton value)
  | other => mismatch other "a string"

def readNatural (size : Nat) (expected : String) (document : Document) : Reading Nat :=
  let bounded (n : Int) : Reading Nat :=
    if 0 ≤ n && n < size then .ok n.toNat else (ReadCause.invalidValue document expected).fail
  match document with
  | .unsigned value => bounded value
  | .signed value => bounded value
  | other => mismatch other expected

def readUInt32 (document : Document) : Reading UInt32 :=
  (document.readNatural UInt32.size "u32").map .ofNat

def readUInt64 (document : Document) : Reading UInt64 :=
  (document.readNatural UInt64.size "u64").map .ofNat

def profileNames : List String := ["standard", "compact"]

def profileOf (name : String) : Reading Profile :=
  match Profile.ofName? name with
  | some profile => .ok profile
  | none => (ReadCause.unknownVariant name profileNames).fail

def readUnit : Document → Reading Unit
  | .null => .ok ()
  | other => mismatch other "unit"

/-- A profile by its name, or by an object that has nothing under that name. -/
def readProfile (origin : Origin) (document : Document) : Reading Profile :=
  match origin, document with
  | _, .text name => profileOf name
  | .json, .object [(name, value)] => do
      let profile ← profileOf name
      value.readUnit
      return profile
  | .json, .object fields =>
      (ReadCause.invalidValue (.object fields) "map with a single key").fail
  | .json, other => mismatch other "string or map"
  | .layers, .object [] => mismatch document "enum"
  | .layers, .object ((name, value) :: _) => within name do
      let profile ← profileOf name
      value.readUnit
      return profile
  | .layers, other => mismatch other "enum Profile"

def readItemsFrom (read : Document → Reading α) : Nat → List Document → Reading (List α)
  | _, [] => .ok []
  | place, item :: rest => do
      let value ← within (toString place) (read item)
      let values ← readItemsFrom read (place + 1) rest
      return value :: values

def readArray (read : Document → Reading α) : Document → Reading (List α)
  | .array items => readItemsFrom read 0 items
  | other => mismatch other "a sequence"

def readFields (read : Document → Reading α) :
    List (String × Document) → Reading (List (String × α))
  | [] => .ok []
  | (name, value) :: rest => do
      let value ← within name (read value)
      let fields ← readFields read rest
      return (name, value) :: fields

/-- What is known of the fields of a structure is kept in a `σ`; `add parts label name value` reads
the field called `name`, and faults in it are said to be in the part called `label`. -/
abbrev AddField (σ : Type) := σ → String → String → Document → Reading σ

def fill (known : Option α) (label name : String) (reading : Reading α) : Reading (Option α) :=
  if known.isSome then (ReadCause.duplicateField name).fail else (within label reading).map some

def readObject (add : AddField σ) : List (String × Document) → σ → Reading σ
  | [], parts => .ok parts
  | (name, value) :: rest, parts => do
      let parts ← add parts name name value
      readObject add rest parts

def readSequence (add : AddField σ) : Nat → List String → List Document → σ → Reading σ
  | place, name :: names, item :: items, parts => do
      let parts ← add parts (toString place) name item
      readSequence add (place + 1) names items parts
  | _, _, _, parts => .ok parts

/-- A JSON array may not have more items than the structure has fields. -/
def checkSurplus (origin : Origin) (names : List String) (items : List Document) : Reading Unit :=
  match origin with
  | .json =>
      if names.length < items.length then
        (ReadCause.invalidLength items.length "fewer elements in array").fail
      else .ok ()
  | .layers => .ok ()

/-- Reads a structure. `finish` makes it from its fields; it is told what to say of a missing one.
-/
def readStructure (origin : Origin) (name : String) (names : List String) (start : σ)
    (add : AddField σ) (finish : (String → ReadCause) → σ → Reading α) : Document → Reading α
  | .object fields => do
      let parts ← readObject add fields start
      finish .missingField parts
  | .array items => do
      let parts ← readSequence add 0 names items start
      let value ← finish (fun missing => .invalidLength (names.idxOf missing)
        (name ++ " with " ++ toString names.length ++ " elements")) parts
      checkSurplus origin names items
      return value
  | other => mismatch other name

def require (missing : String → ReadCause) (name : String) : Option α → Reading α
  | some value => .ok value
  | none => (missing name).fail

structure RuleParts where
  pattern : Option String := none
  weight : Option UInt32 := none

def RuleParts.add : AddField RuleParts := fun parts label name value =>
  match name with
  | "pattern" => do
      return { parts with pattern := ← fill parts.pattern label name value.readText }
  | "weight" => do
      return { parts with weight := ← fill parts.weight label name value.readUInt32 }
  | _ => .ok parts

/-- The weight of a rule is one unless it is given. -/
def RuleParts.finish (missing : String → ReadCause) (parts : RuleParts) : Reading CustomRule := do
  let pattern ← require missing "pattern" parts.pattern
  return ⟨pattern, parts.weight.getD 1⟩

def readRule (origin : Origin) : Document → Reading CustomRule :=
  readStructure origin "struct CustomRule" ["pattern", "weight"] {} RuleParts.add
    RuleParts.finish

def extensionsOfText (text : String) : List String :=
  (split ',' text).filterMap Extension.normalize?

def withoutRepeats (items : List String) : List String :=
  items.foldl (fun known item => if known.contains item then known else known ++ [item]) []

def extensionsOfTexts (texts : List String) : List String :=
  withoutRepeats (texts.filterMap Extension.normalize?)

def readExtensions : Document → Reading (List String)
  | .text value => .ok (extensionsOfText value)
  | .char value => .ok (extensionsOfText (String.singleton value))
  | .array items => (readItemsFrom readText 0 items).map extensionsOfTexts
  | other => mismatch other "a string or array of extensions"

structure LanguageParts where
  name : Option String := none
  rules : Option (List CustomRule) := none
  extensions : Option (List String) := none

def LanguageParts.add (origin : Origin) : AddField LanguageParts := fun parts label name value =>
  match name with
  | "name" => do
      return { parts with name := ← fill parts.name label name value.readText }
  | "rules" => do
      return { parts with
        rules := ← fill parts.rules label name (value.readArray (readRule origin)) }
  | "extensions" => do
      return { parts with extensions := ← fill parts.extensions label name value.readExtensions }
  | _ => .ok parts

def LanguageParts.finish (missing : String → ReadCause) (parts : LanguageParts) :
    Reading CustomLanguage := do
  let name ← require missing "name" parts.name
  return ⟨name, parts.rules.getD [], parts.extensions.getD []⟩

def readLanguage (origin : Origin) : Document → Reading CustomLanguage :=
  readStructure origin "struct CustomLanguage" ["name", "rules", "extensions"] {}
    (LanguageParts.add origin) LanguageParts.finish

/-- The mappings of a table under the kept forms of its keys. Of keys with the same form the
greatest wins. -/
def mappingsOfTable (table : List (String × String)) : Dictionary String :=
  .ofList ((Dictionary.ofList table).filterMap fun (key, id) =>
    (Extension.normalize? key).map fun extension => (extension, trim id))

def readMappings : Document → Reading (Dictionary String)
  | .object fields => (readFields readText fields).map mappingsOfTable
  | other => mismatch other "a map"

structure SettingsParts where
  profile : Option Profile := none
  maxFileBytes : Option UInt64 := none
  respectGitignore : Option Bool := none
  followSymlinks : Option Bool := none
  extensionHint : Option Bool := none
  extensions : Option (Dictionary String) := none
  languages : Option (List CustomLanguage) := none

def settingName (name : String) : String :=
  match name with
  | "extension_map" => "extensions"
  | "language" => "languages"
  | _ => name

def SettingsParts.add (origin : Origin) : AddField SettingsParts := fun parts label name value =>
  match settingName name with
  | "profile" => do
      return { parts with
        profile := ← fill parts.profile label "profile" (value.readProfile origin) }
  | "max_file_bytes" => do
      return { parts with
        maxFileBytes := ← fill parts.maxFileBytes label "max_file_bytes" value.readUInt64 }
  | "respect_gitignore" => do
      return { parts with
        respectGitignore := ← fill parts.respectGitignore label "respect_gitignore" value.readBool }
  | "follow_symlinks" => do
      return { parts with
        followSymlinks := ← fill parts.followSymlinks label "follow_symlinks" value.readBool }
  | "extension_hint" => do
      return { parts with
        extensionHint := ← fill parts.extensionHint label "extension_hint" value.readBool }
  | "extensions" => do
      return { parts with
        extensions := ← fill parts.extensions label "extensions" value.readMappings }
  | "languages" => do
      let read := value.readArray (readLanguage origin)
      return { parts with languages := ← fill parts.languages label "languages" read }
  | _ => .ok parts

def SettingsParts.finish (parts : SettingsParts) : Settings :=
  let default : Settings := {}
  { profile := parts.profile.getD default.profile
    maxFileBytes := parts.maxFileBytes.getD default.maxFileBytes
    respectGitignore := parts.respectGitignore.getD default.respectGitignore
    followSymlinks := parts.followSymlinks.getD default.followSymlinks
    extensionHint := parts.extensionHint.getD default.extensionHint
    extensions := parts.extensions.getD default.extensions
    languages := parts.languages.getD default.languages }

def settingNames : List String :=
  ["profile", "max_file_bytes", "respect_gitignore", "follow_symlinks", "extension_hint",
    "extensions", "languages"]

def readSettings (origin : Origin) : Document → Reading Settings :=
  readStructure origin "struct Config" settingNames {} (SettingsParts.add origin)
    fun _ parts => .ok parts.finish

end Document

def Settings.ofJson (document : Document) : Reading Settings :=
  document.readSettings .json

end LanguageDetection
