import LanguageDetection.Dictionary
import LanguageDetection.Document
import LanguageDetection.Verdict

namespace LanguageDetection

structure CustomRule where
  pattern : String
  weight : UInt32
  deriving Repr, DecidableEq

/-- A language that is added, or given more rules and extensions. -/
structure CustomLanguage where
  name : String
  rules : List CustomRule
  extensions : List String
  deriving Repr, DecidableEq

structure Settings where
  profile : Profile := .standard
  maxFileBytes : UInt64 := 10485760
  respectGitignore : Bool := true
  followSymlinks : Bool := false
  extensionHint : Bool := true
  extensions : Dictionary String := []
  languages : List CustomLanguage := []
  deriving Repr, DecidableEq

/-- Settings that replace what is configured, each if it is given. -/
structure Overrides where
  profile : Option Profile := none
  maxFileBytes : Option UInt64 := none
  respectGitignore : Option Bool := none
  followSymlinks : Option Bool := none
  extensionHint : Option Bool := none
  deriving Repr, DecidableEq

def Settings.override (settings : Settings) (overrides : Overrides) : Settings :=
  { settings with
    profile := overrides.profile.getD settings.profile
    maxFileBytes := overrides.maxFileBytes.getD settings.maxFileBytes
    respectGitignore := overrides.respectGitignore.getD settings.respectGitignore
    followSymlinks := overrides.followSymlinks.getD settings.followSymlinks
    extensionHint := overrides.extensionHint.getD settings.extensionHint }

def CustomRule.toDocument (rule : CustomRule) : Document :=
  .object [("pattern", .text rule.pattern), ("weight", .unsigned rule.weight.toNat)]

def CustomLanguage.toDocument (language : CustomLanguage) : Document :=
  .object [
    ("name", .text language.name),
    ("rules", .array (language.rules.map CustomRule.toDocument)),
    ("extensions", .array (language.extensions.map .text))]

def Settings.toDocument (settings : Settings) : Document :=
  .object [
    ("profile", .text settings.profile.name),
    ("max_file_bytes", .unsigned settings.maxFileBytes.toNat),
    ("respect_gitignore", .bool settings.respectGitignore),
    ("follow_symlinks", .bool settings.followSymlinks),
    ("extension_hint", .bool settings.extensionHint),
    ("extensions", .object (settings.extensions.map fun (e, l) => (e, .text l))),
    ("languages", .array (settings.languages.map CustomLanguage.toDocument))]

end LanguageDetection
