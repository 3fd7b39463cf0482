import LanguageDetection.Proofs.Settings.Choosing
import LanguageDetection.Proofs.Settings.Fields
import LanguageDetection.Proofs.Settings.Variables
import LanguageDetection.Proofs.Toml.Plain

/-!
Layers of settings: a setting is what overrides it, else what its variable sets, else what the chosen
file gives, else its default.
-/

namespace LanguageDetection

open LanguageDetection.Document
open LanguageDetection.Files
open LanguageDetection.Text

/-- A setting that is one value: its name, how it is read, and what it is when nothing is given. -/
structure Scalar (α : Type) where
  name : String
  read : Document → Reading α
  default : α

namespace Scalar

def profile : Scalar Profile := ⟨"profile", readProfile .layers, .standard⟩

def maxFileBytes : Scalar UInt64 := ⟨"max_file_bytes", readUInt64, 10485760⟩

def respectGitignore : Scalar Bool := ⟨"respect_gitignore", readBool, true⟩

def followSymlinks : Scalar Bool := ⟨"follow_symlinks", readBool, false⟩

def extensionHint : Scalar Bool := ⟨"extension_hint", readBool, true⟩

/-- The layers of a setting, from the highest down. -/
inductive Decides {α : Type} (scalar : Scalar α) (override : Option α)
    (environment : List (String × String)) (file : Document) : α → Prop
  | override {value : α} :
      override = some value → Decides scalar override environment file value
  | variable {document : Document} {value : α} :
      override = none → Variables.Sets environment scalar.name document →
      scalar.read document = .ok value → Decides scalar override environment file value
  | file {document : Document} {value : α} :
      override = none → (∀ entry ∈ environment, ¬ Variables.SpeaksOf entry.1 scalar.name) →
      Dictionary.find? file.fields scalar.name = some document →
      scalar.read document = .ok value → Decides scalar override environment file value
  | default :
      override = none → (∀ entry ∈ environment, ¬ Variables.SpeaksOf entry.1 scalar.name) →
      Dictionary.find? file.fields scalar.name = none →
      Decides scalar override environment file scalar.default

/-- How a setting of one value is read from an object: under one name, and from no object. -/
structure IsRead {α : Type} (scalar : Scalar α) (get : SettingsParts → Option α) : Prop where
  isField : IsField .layers get scalar.name scalar.read
  name_eq_iff : ∀ name, settingName name = scalar.name ↔ name = scalar.name
  not_object : ∀ {document value}, document.IsPlain → scalar.read document = .ok value →
    ∀ fields, document ≠ .object fields
  unset : get {} = none

private theorem settingName_eq_iff {setting : String} (one : setting ≠ "extensions")
    (other : setting ≠ "languages") (isName : settingName setting = setting) (name : String) :
    settingName name = setting ↔ name = setting := by
  constructor
  · intro named
    unfold settingName at named
    split at named
    · exact absurd named.symm one
    · exact absurd named.symm other
    · exact named
  · rintro rfl
    exact isName

/-- A profile is given by its name: the object that JSON has for it needs a null. -/
theorem isRead_profile : IsRead profile (·.profile) where
  isField := isField_profile .layers
  name_eq_iff := settingName_eq_iff (by decide) (by decide) rfl
  not_object := by
    rintro document value plain read fields rfl
    cases fields with
    | nil => contradiction
    | cons field rest =>
        obtain ⟨name, inner⟩ := field
        cases plain with
        | object _ fieldsPlain =>
            have innerPlain := fieldsPlain (name, inner) List.mem_cons_self
            unfold profile readProfile within at read
            dsimp only at read
            cases named : profileOf name with
            | error fault => simp [named, bind, Except.bind, Except.mapError] at read
            | ok known =>
                cases innerPlain <;>
                  simp [named, bind, Except.bind, Except.mapError, readUnit, mismatch,
                    ReadCause.fail] at read
  unset := rfl

theorem isRead_maxFileBytes : IsRead maxFileBytes (·.maxFileBytes) where
  isField := isField_maxFileBytes .layers
  name_eq_iff := settingName_eq_iff (by decide) (by decide) rfl
  not_object := by
    rintro document value _ read fields rfl
    contradiction
  unset := rfl

private theorem readBool_not_object {document : Document} {value : Bool}
    (read : document.readBool = .ok value) (fields : List (String × Document)) :
    document ≠ .object fields := by
  rintro rfl
  contradiction

theorem isRead_respectGitignore : IsRead respectGitignore (·.respectGitignore) where
  isField := isField_respectGitignore .layers
  name_eq_iff := settingName_eq_iff (by decide) (by decide) rfl
  not_object _ := readBool_not_object
  unset := rfl

theorem isRead_followSymlinks : IsRead followSymlinks (·.followSymlinks) where
  isField := isField_followSymlinks .layers
  name_eq_iff := settingName_eq_iff (by decide) (by decide) rfl
  not_object _ := readBool_not_object
  unset := rfl

theorem isRead_extensionHint : IsRead extensionHint (·.extensionHint) where
  isField := isField_extensionHint .layers
  name_eq_iff := settingName_eq_iff (by decide) (by decide) rfl
  not_object _ := readBool_not_object
  unset := rfl

section

variable {α : Type} {scalar : Scalar α} {get : SettingsParts → Option α}

theorem IsRead.of_readObject (isRead : scalar.IsRead get) {fields : List (String × Document)}
    (ascending : Dictionary.Ascending fields) {parts : SettingsParts}
    (read : readObject (SettingsParts.add .layers) fields {} = .ok parts) :
    match Dictionary.find? fields scalar.name with
    | some document => ∃ value, scalar.read document = .ok value ∧ get parts = some value
    | none => get parts = none := by
  cases found : Dictionary.find? fields scalar.name with
  | some document =>
      have member := (ascending.mem_iff scalar.name document).mpr found
      exact isRead.isField.get_of_mem member ((isRead.name_eq_iff _).mpr rfl) read
  | none =>
      have absent : ∀ field ∈ fields, settingName field.1 ≠ scalar.name := by
        intro field member named
        have found' := (ascending.mem_iff field.1 field.2).mp member
        rw [(isRead.name_eq_iff field.1).mp named, found] at found'
        contradiction
      exact (isRead.isField.get_of_absent absent read).trans isRead.unset

theorem IsRead.decides (isRead : scalar.IsRead get) {environment : List (String × String)}
    {file : Document} (filePlain : file.IsPlain) {parts : SettingsParts}
    (read : readObject (SettingsParts.add .layers)
      (overlayFields file.fields (Variables.document environment).fields) {} = .ok parts)
    (override : Option α) :
    scalar.Decides override environment file
      (override.getD ((get parts).getD scalar.default)) := by
  cases override with
  | some value => exact .override rfl
  | none =>
      have layerPlain := Variables.isPlain_document environment
      have given := isRead.of_readObject (ascending_overlayFields filePlain.ascending) read
      rw [find?_overlayFields layerPlain.ascending] at given
      cases inLayer : Dictionary.find? (Variables.document environment).fields scalar.name with
      | some above =>
          simp only [inLayer, Option.map_some, Option.some_or] at given
          obtain ⟨value, valueRead, isSet⟩ := given
          have laidPlain : (overlayOn (Dictionary.find? file.fields scalar.name) above).IsPlain :=
            isPlain_overlayOn (fun _ => filePlain.field) (layerPlain.field inLayer)
          have notObject := isRead.not_object laidPlain valueRead
          have shown := eq_of_overlayOn_eq rfl notObject
          rw [← shown] at valueRead notObject
          rw [isSet]
          exact .variable rfl (Variables.sets_of_find?_document inLayer notObject) valueRead
      | none =>
          have silent := (Variables.find?_document_eq_none_iff environment scalar.name).mp inLayer
          rw [inLayer] at given
          cases inFile : Dictionary.find? file.fields scalar.name with
          | some document =>
              simp only [inFile, Option.map_none, Option.none_or] at given
              obtain ⟨value, valueRead, isSet⟩ := given
              rw [isSet]
              exact .file rfl silent inFile valueRead
          | none =>
              simp only [inFile, Option.map_none, Option.none_or] at given
              rw [given]
              exact .default rfl silent inFile

end

end Scalar

/-- Settings of one value each, as their layers decide them. -/
structure Settings.Layered (environment : List (String × String)) (file : Document)
    (overrides : Overrides) (settings : Settings) : Prop where
  profile : Scalar.profile.Decides overrides.profile environment file settings.profile
  maxFileBytes :
    Scalar.maxFileBytes.Decides overrides.maxFileBytes environment file settings.maxFileBytes
  respectGitignore : Scalar.respectGitignore.Decides overrides.respectGitignore environment file
    settings.respectGitignore
  followSymlinks :
    Scalar.followSymlinks.Decides overrides.followSymlinks environment file settings.followSymlinks
  extensionHint :
    Scalar.extensionHint.Decides overrides.extensionHint environment file settings.extensionHint

theorem overlay_document (file : Document) (environment : List (String × String)) :
    file.overlay (Variables.document environment) =
      .object (overlayFields file.fields (Variables.document environment).fields) := by
  rw [Variables.document_eq_object, overlay_object]
  rfl

theorem Settings.layered_of_read {file : Document} (filePlain : file.IsPlain)
    {environment : List (String × String)} {settings : Settings}
    (read : (file.overlay (Variables.document environment)).readSettings .layers = .ok settings)
    (overrides : Overrides) : (settings.override overrides).Layered environment file overrides := by
  rw [overlay_document, readSettings_object_eq_ok_iff] at read
  obtain ⟨parts, partsRead, rfl⟩ := read
  exact {
    profile := Scalar.isRead_profile.decides filePlain partsRead overrides.profile
    maxFileBytes := Scalar.isRead_maxFileBytes.decides filePlain partsRead overrides.maxFileBytes
    respectGitignore :=
      Scalar.isRead_respectGitignore.decides filePlain partsRead overrides.respectGitignore
    followSymlinks :=
      Scalar.isRead_followSymlinks.decides filePlain partsRead overrides.followSymlinks
    extensionHint := Scalar.isRead_extensionHint.decides filePlain partsRead overrides.extensionHint }

theorem Layers.mapError_settings_eq_ok_iff {ε : Type} {layers : Layers} {wrap : String → ε}
    {settings : Settings} :
    layers.settings.mapError wrap = .ok settings ↔
      layers.united.readSettings .layers = .ok settings := by
  rw [Layers.settings]
  cases layers.united.readSettings .layers <;> simp [Except.mapError]

namespace SettingsSource

/-- What the chosen file holds. No file holds nothing. -/
def Holds (source : SettingsSource) (files : FileSystem Id) (chosen : Option Path)
    (file : Document) : Prop :=
  match chosen with
  | none => file = .object []
  | some path => documentOfFile (shownFrom source.directory (Path.join source.directory path))
      (files.bytes path).run = .ok file

section

variable {source : SettingsSource} {files : FileSystem Id} {chosen : Option Path} {file : Document}

theorem isPlain_documentOfFile {shown : String} {content : Except FileError (List UInt8)}
    (read : documentOfFile shown content = .ok file) :
    file.IsPlain ∧ file = .object file.fields := by
  unfold documentOfFile at read
  cases content with
  | error error => contradiction
  | ok bytes =>
      dsimp only at read
      cases decoded : Utf8.decodeStrict? bytes with
      | none => simp [decoded] at read
      | some chars =>
          cases parsed : Toml.parse? (String.ofList chars) with
          | none => simp [decoded, parsed] at read
          | some document =>
              simp only [decoded, parsed, Except.ok.injEq] at read
              exact read ▸ Toml.isPlain_parse? parsed

theorem Holds.isPlain (holds : source.Holds files chosen file) :
    file.IsPlain ∧ file = .object file.fields := by
  cases chosen with
  | none =>
      cases holds
      exact ⟨.object List.Pairwise.nil (List.forall_mem_nil _), rfl⟩
  | some path => exact isPlain_documentOfFile holds

theorem settingsOf_eq_ok_iff {settings : Settings} :
    source.settingsOf (chosen.map fun path => (path, (files.bytes path).run)) = .ok settings ↔
      ∃ file, source.Holds files chosen file ∧
        (file.overlay (Variables.document source.environment)).readSettings .layers =
          .ok settings := by
  cases chosen with
  | none =>
      simp only [settingsOf, Option.map_none, Layers.mapError_settings_eq_ok_iff, Holds,
        exists_eq_left]
      rfl
  | some path =>
      simp only [settingsOf, Option.map_some, Holds]
      cases documentOfFile (shownFrom source.directory (Path.join source.directory path))
          (files.bytes path).run with
      | error cause => simp
      | ok file =>
          simp only [Layers.mapError_settings_eq_ok_iff, Except.ok.injEq, exists_eq_left']
          rfl

/-- Settings that are loaded are read from what the chosen file holds, below the variables. -/
theorem load_eq_ok_iff {settings : Settings} :
    (source.load files).run.1 = .ok settings ↔
      ∃ chosen file, Chooses source files chosen ∧ source.Holds files chosen file ∧
        (file.overlay (Variables.document source.environment)).readSettings .layers =
          .ok settings := by
  rw [load_eq]
  simp only [← file?_eq_ok_iff]
  cases (source.file? files).run with
  | error error => simp
  | ok chosen => simp [settingsOf_eq_ok_iff]

theorem Holds.unique {file' : Document} (holds : source.Holds files chosen file)
    (holds' : source.Holds files chosen file') : file = file' := by
  cases chosen with
  | none => exact (show file = .object [] from holds).trans (show file' = .object [] from holds').symm
  | some path => exact Except.ok.inj (Eq.trans (Eq.symm holds) holds')

theorem load_eq_ok_iff_of_holds (chooses : Chooses source files chosen)
    (holds : source.Holds files chosen file) {settings : Settings} :
    (source.load files).run.1 = .ok settings ↔
      (file.overlay (Variables.document source.environment)).readSettings .layers =
        .ok settings := by
  rw [load_eq, file?_eq_ok_iff.mpr chooses]
  dsimp only
  rw [settingsOf_eq_ok_iff]
  constructor
  · rintro ⟨file', holds', read⟩
    rwa [holds.unique holds']
  · exact fun read => ⟨file, holds, read⟩

end

end SettingsSource

end LanguageDetection
