import LanguageDetection.Proofs.Settings.Overlay
import LanguageDetection.Proofs.Settings.Reading

/-!
The fields of settings: what reading one of them does, and with it the whole object. An object is
read exactly if each of its fields is and no setting is given twice.
-/

namespace LanguageDetection.Document

/-- All that reading one field can do to what is known of the settings. -/
inductive Adds (origin : Origin) (parts : SettingsParts) (name : String) (document : Document) :
    SettingsParts → Prop
  | profile {value : Profile} :
      settingName name = "profile" → parts.profile = none →
      document.readProfile origin = .ok value →
      Adds origin parts name document { parts with profile := some value }
  | maxFileBytes {value : UInt64} :
      settingName name = "max_file_bytes" → parts.maxFileBytes = none →
      document.readUInt64 = .ok value →
      Adds origin parts name document { parts with maxFileBytes := some value }
  | respectGitignore {value : Bool} :
      settingName name = "respect_gitignore" → parts.respectGitignore = none →
      document.readBool = .ok value →
      Adds origin parts name document { parts with respectGitignore := some value }
  | followSymlinks {value : Bool} :
      settingName name = "follow_symlinks" → parts.followSymlinks = none →
      document.readBool = .ok value →
      Adds origin parts name document { parts with followSymlinks := some value }
  | extensionHint {value : Bool} :
      settingName name = "extension_hint" → parts.extensionHint = none →
      document.readBool = .ok value →
      Adds origin parts name document { parts with extensionHint := some value }
  | extensions {value : Dictionary String} :
      settingName name = "extensions" → parts.extensions = none →
      document.readMappings = .ok value →
      Adds origin parts name document { parts with extensions := some value }
  | languages {value : List CustomLanguage} :
      settingName name = "languages" → parts.languages = none →
      document.readArray (readLanguage origin) = .ok value →
      Adds origin parts name document { parts with languages := some value }
  | other : settingName name ∉ settingNames → Adds origin parts name document parts

theorem adds_iff {origin : Origin} {parts parts' : SettingsParts} {label name : String}
    {document : Document} :
    SettingsParts.add origin parts label name document = .ok parts' ↔
      Adds origin parts name document parts' := by
  constructor
  · intro added
    unfold SettingsParts.add at added
    split at added
    case h_8 known =>
      obtain rfl := Except.ok.inj added
      apply Adds.other
      simp only [settingNames, List.mem_cons, List.not_mem_nil, or_false, not_or]
      exact ⟨‹_›, ‹_›, ‹_›, ‹_›, ‹_›, ‹_›, ‹_›⟩
    all_goals
      rename_i named
      obtain ⟨filled, fills, same⟩ := bind_eq_ok_iff.mp added
      obtain ⟨unset, value, read, rfl⟩ := fill_eq_ok_iff.mp fills
      obtain rfl := Except.ok.inj same
    case h_1 => exact .profile named unset read
    case h_2 => exact .maxFileBytes named unset read
    case h_3 => exact .respectGitignore named unset read
    case h_4 => exact .followSymlinks named unset read
    case h_5 => exact .extensionHint named unset read
    case h_6 => exact .extensions named unset read
    case h_7 => exact .languages named unset read
  · intro adds
    unfold SettingsParts.add
    cases adds with
    | other unknown =>
        split
        case h_8 => rfl
        all_goals
          rename_i named
          exact absurd (named ▸ by decide) unknown
    | _ named unset read =>
        rw [named]
        exact bind_eq_ok_iff.mpr ⟨_, fill_eq_ok_iff.mpr ⟨unset, _, read, rfl⟩, rfl⟩

/-- The part of what is known that a setting is kept in, and how the setting is read. -/
structure IsField {α : Type} (origin : Origin) (get : SettingsParts → Option α) (setting : String)
    (read : Document → Reading α) : Prop where
  reads : ∀ {parts parts' name document}, Adds origin parts name document parts' →
    settingName name = setting →
    get parts = none ∧ ∃ value, read document = .ok value ∧ get parts' = some value
  keeps : ∀ {parts parts' name document}, Adds origin parts name document parts' →
    settingName name ≠ setting → get parts' = get parts

section

variable (origin : Origin)

theorem isField_profile : IsField origin (·.profile) "profile" (readProfile origin) := by
  constructor <;> intro _ _ _ _ adds named <;> cases adds <;> simp_all [settingNames]

theorem isField_maxFileBytes : IsField origin (·.maxFileBytes) "max_file_bytes" readUInt64 := by
  constructor <;> intro _ _ _ _ adds named <;> cases adds <;> simp_all [settingNames]

theorem isField_respectGitignore :
    IsField origin (·.respectGitignore) "respect_gitignore" readBool := by
  constructor <;> intro _ _ _ _ adds named <;> cases adds <;> simp_all [settingNames]

theorem isField_followSymlinks : IsField origin (·.followSymlinks) "follow_symlinks" readBool := by
  constructor <;> intro _ _ _ _ adds named <;> cases adds <;> simp_all [settingNames]

theorem isField_extensionHint : IsField origin (·.extensionHint) "extension_hint" readBool := by
  constructor <;> intro _ _ _ _ adds named <;> cases adds <;> simp_all [settingNames]

theorem isField_extensions : IsField origin (·.extensions) "extensions" readMappings := by
  constructor <;> intro _ _ _ _ adds named <;> cases adds <;> simp_all [settingNames]

theorem isField_languages :
    IsField origin (·.languages) "languages" (readArray (readLanguage origin)) := by
  constructor <;> intro _ _ _ _ adds named <;> cases adds <;> simp_all [settingNames]

end

/-- A setting that has been read has its default, or was read from one of the fields. -/
theorem IsField.eq_default_or_exists_field {α : Type} {origin : Origin}
    {get : SettingsParts → Option α} {setting : String} {read : Document → Reading α}
    (isField : IsField origin get setting read) (unset : get {} = none)
    (toSetting : Settings → α) (default : α)
    (finish_eq : ∀ parts, toSetting (SettingsParts.finish parts) = (get parts).getD default)
    {document : Document} {settings : Settings} (wasRead : document.readSettings origin = .ok settings) :
    toSetting settings = default ∨ ∃ field ∈ document.fieldsFor settingNames,
      settingName field.1 = setting ∧ read field.2 = .ok (toSetting settings) := by
  have kept : ∀ field ∈ document.fieldsFor settingNames, ∀ {parts parts' label},
      ReadFrom (document.fieldsFor settingNames) (settingName · = setting) read (get parts) →
      SettingsParts.add origin parts label field.1 field.2 = .ok parts' →
      ReadFrom (document.fieldsFor settingNames) (settingName · = setting) read (get parts') := by
    intro field member parts parts' label readFrom added
    by_cases named : settingName field.1 = setting
    · obtain ⟨-, value, valueRead, isSet⟩ := isField.reads (adds_iff.mp added) named
      rw [isSet]
      exact .of_mem member named valueRead
    · rwa [isField.keeps (adds_iff.mp added) named]
  obtain ⟨-, parts, readFrom, finished⟩ :=
    exists_parts_of_readStructure kept (unset ▸ readFrom_none) wasRead
  obtain rfl := Except.ok.inj finished
  rw [finish_eq]
  exact readFrom.getD default

theorem keptExtensions_of_readSettings {origin : Origin} {document : Document}
    {settings : Settings} (read : document.readSettings origin = .ok settings) :
    KeptExtensions settings.extensions := by
  rcases (isField_extensions origin).eq_default_or_exists_field rfl (·.extensions) []
    (fun _ => rfl) read with default | ⟨field, -, -, extensionsRead⟩
  · rw [default]
    exact ⟨List.Pairwise.nil, List.forall_mem_nil _⟩
  · exact keptExtensions_of_readMappings extensionsRead

section

variable {α : Type} {origin : Origin} {get : SettingsParts → Option α} {setting : String}
  {read : Document → Reading α} (isField : IsField origin get setting read)
  {fields : List (String × Document)} {parts parts' : SettingsParts}

include isField

theorem IsField.get_of_absent (absent : ∀ field ∈ fields, settingName field.1 ≠ setting)
    (wasRead : readObject (SettingsParts.add origin) fields parts = .ok parts') :
    get parts' = get parts := by
  induction fields generalizing parts with
  | nil => exact Except.ok.inj wasRead ▸ rfl
  | cons field rest ih =>
      obtain ⟨different, restAbsent⟩ := List.forall_mem_cons.mp absent
      obtain ⟨next, added, restRead⟩ := bind_eq_ok_iff.mp wasRead
      rw [ih restAbsent restRead, isField.keeps (adds_iff.mp added) different]

theorem IsField.absent_of_set (isSet : get parts ≠ none)
    (wasRead : readObject (SettingsParts.add origin) fields parts = .ok parts') :
    ∀ field ∈ fields, settingName field.1 ≠ setting := by
  induction fields generalizing parts with
  | nil => exact List.forall_mem_nil _
  | cons field rest ih =>
      obtain ⟨next, added, restRead⟩ := bind_eq_ok_iff.mp wasRead
      have different : settingName field.1 ≠ setting := fun named =>
        isSet (isField.reads (adds_iff.mp added) named).1
      refine List.forall_mem_cons.mpr ⟨different, ih ?_ restRead⟩
      rwa [isField.keeps (adds_iff.mp added) different]

theorem IsField.get_of_mem {field : String × Document} (member : field ∈ fields)
    (named : settingName field.1 = setting)
    (wasRead : readObject (SettingsParts.add origin) fields parts = .ok parts') :
    ∃ value, read field.2 = .ok value ∧ get parts' = some value := by
  induction fields generalizing parts with
  | nil => contradiction
  | cons first rest ih =>
      obtain ⟨next, added, restRead⟩ := bind_eq_ok_iff.mp wasRead
      cases List.mem_cons.mp member with
      | inl isFirst =>
          subst isFirst
          obtain ⟨-, value, valueRead, isSet⟩ := isField.reads (adds_iff.mp added) named
          have absent : ∀ field ∈ rest, settingName field.1 ≠ setting :=
            isField.absent_of_set (by simp [isSet]) restRead
          exact ⟨value, valueRead, (isField.get_of_absent absent restRead).trans isSet⟩
      | inr inRest => exact ih inRest restRead

end

/-- Whether a setting is known already. -/
def Gives (parts : SettingsParts) (setting : String) : Prop :=
  (setting = "profile" ∧ parts.profile ≠ none) ∨
    (setting = "max_file_bytes" ∧ parts.maxFileBytes ≠ none) ∨
    (setting = "respect_gitignore" ∧ parts.respectGitignore ≠ none) ∨
    (setting = "follow_symlinks" ∧ parts.followSymlinks ≠ none) ∨
    (setting = "extension_hint" ∧ parts.extensionHint ≠ none) ∨
    (setting = "extensions" ∧ parts.extensions ≠ none) ∨
    (setting = "languages" ∧ parts.languages ≠ none)

/-- A field that can be read, where its setting is not known yet. -/
def Readable (origin : Origin) (field : String × Document) : Prop :=
  ∃ parts, Adds origin {} field.1 field.2 parts

theorem exists_adds_iff {origin : Origin} {parts : SettingsParts} {field : String × Document} :
    (∃ parts', Adds origin parts field.1 field.2 parts') ↔
      Readable origin field ∧ ¬ Gives parts (settingName field.1) := by
  constructor
  · rintro ⟨parts', adds⟩
    cases adds with
    | profile named unset read => exact ⟨⟨_, .profile named rfl read⟩, by simp [Gives, named, unset]⟩
    | maxFileBytes named unset read =>
        exact ⟨⟨_, .maxFileBytes named rfl read⟩, by simp [Gives, named, unset]⟩
    | respectGitignore named unset read =>
        exact ⟨⟨_, .respectGitignore named rfl read⟩, by simp [Gives, named, unset]⟩
    | followSymlinks named unset read =>
        exact ⟨⟨_, .followSymlinks named rfl read⟩, by simp [Gives, named, unset]⟩
    | extensionHint named unset read =>
        exact ⟨⟨_, .extensionHint named rfl read⟩, by simp [Gives, named, unset]⟩
    | extensions named unset read =>
        exact ⟨⟨_, .extensions named rfl read⟩, by simp [Gives, named, unset]⟩
    | languages named unset read =>
        exact ⟨⟨_, .languages named rfl read⟩, by simp [Gives, named, unset]⟩
    | other unknown =>
        refine ⟨⟨_, .other unknown⟩, ?_⟩
        simp_all [Gives, settingNames]
  · rintro ⟨⟨parts', adds⟩, unset⟩
    cases adds with
    | profile named _ read => exact ⟨_, .profile named (by simpa [Gives, named] using unset) read⟩
    | maxFileBytes named _ read =>
        exact ⟨_, .maxFileBytes named (by simpa [Gives, named] using unset) read⟩
    | respectGitignore named _ read =>
        exact ⟨_, .respectGitignore named (by simpa [Gives, named] using unset) read⟩
    | followSymlinks named _ read =>
        exact ⟨_, .followSymlinks named (by simpa [Gives, named] using unset) read⟩
    | extensionHint named _ read =>
        exact ⟨_, .extensionHint named (by simpa [Gives, named] using unset) read⟩
    | extensions named _ read =>
        exact ⟨_, .extensions named (by simpa [Gives, named] using unset) read⟩
    | languages named _ read =>
        exact ⟨_, .languages named (by simpa [Gives, named] using unset) read⟩
    | other unknown => exact ⟨_, .other unknown⟩

theorem gives_of_adds {origin : Origin} {parts parts' : SettingsParts} {name : String}
    {document : Document} (adds : Adds origin parts name document parts') (setting : String) :
    Gives parts' setting ↔
      Gives parts setting ∨ (setting = settingName name ∧ setting ∈ settingNames) := by
  cases adds <;> simp_all [Gives, settingNames] <;> grind

/-- Whether two names are names of the same setting. -/
def Repeats (a b : String) : Prop :=
  settingName a = settingName b ∧ settingName a ∈ settingNames

theorem Repeats.symm {a b : String} (repeats : Repeats a b) : Repeats b a :=
  ⟨repeats.1.symm, repeats.1 ▸ repeats.2⟩

/-- What a field leaves open for a later one. -/
theorem not_gives_of_adds_iff {origin : Origin} {parts parts' : SettingsParts} {name : String}
    {document : Document} (adds : Adds origin parts name document parts') (later : String) :
    ¬ Gives parts' (settingName later) ↔
      ¬ Gives parts (settingName later) ∧ ¬ Repeats name later := by
  rw [gives_of_adds adds, not_or]
  refine and_congr_right fun _ => not_congr ?_
  constructor
  · rintro ⟨same, known⟩
    exact ⟨same.symm, same ▸ known⟩
  · rintro ⟨same, known⟩
    exact ⟨same.symm, same ▸ known⟩

theorem exists_readObject_iff {origin : Origin} {fields : List (String × Document)}
    {parts : SettingsParts} :
    (∃ parts', readObject (SettingsParts.add origin) fields parts = .ok parts') ↔
      (∀ field ∈ fields, Readable origin field ∧ ¬ Gives parts (settingName field.1)) ∧
        fields.Pairwise fun a b => ¬ Repeats a.1 b.1 := by
  -- For whatever is known already, since the first field adds to what the others find known.
  induction fields generalizing parts with
  | nil =>
      constructor
      · exact fun _ => ⟨List.forall_mem_nil _, List.Pairwise.nil⟩
      · exact fun _ => ⟨parts, rfl⟩
  | cons field rest ih =>
      constructor
      · rintro ⟨parts', wasRead⟩
        obtain ⟨next, added, restRead⟩ := bind_eq_ok_iff.mp wasRead
        have adds := adds_iff.mp added
        obtain ⟨restReadable, distinct⟩ := ih.mp ⟨parts', restRead⟩
        refine ⟨List.forall_mem_cons.mpr ⟨exists_adds_iff.mp ⟨next, adds⟩, ?_⟩,
          List.pairwise_cons.mpr ⟨?_, distinct⟩⟩
        · intro later member
          obtain ⟨readable, unset⟩ := restReadable later member
          exact ⟨readable, ((not_gives_of_adds_iff adds later.1).mp unset).1⟩
        · intro later member
          exact ((not_gives_of_adds_iff adds later.1).mp (restReadable later member).2).2
      · rintro ⟨readable, distinct⟩
        obtain ⟨first, restReadable⟩ := List.forall_mem_cons.mp readable
        obtain ⟨apart, restDistinct⟩ := List.pairwise_cons.mp distinct
        obtain ⟨next, adds⟩ := exists_adds_iff.mpr first
        obtain ⟨parts', restRead⟩ := ih.mpr ⟨fun later member =>
          ⟨(restReadable later member).1, (not_gives_of_adds_iff adds later.1).mpr
            ⟨(restReadable later member).2, apart later member⟩⟩, restDistinct⟩
        have added : SettingsParts.add origin parts field.1 field.1 field.2 = .ok next :=
          adds_iff.mpr adds
        exact ⟨parts', bind_eq_ok_iff.mpr ⟨next, added, restRead⟩⟩

theorem readSettings_object_eq_ok_iff {origin : Origin} {fields : List (String × Document)}
    {settings : Settings} :
    (Document.object fields).readSettings origin = .ok settings ↔
      ∃ parts, readObject (SettingsParts.add origin) fields {} = .ok parts ∧
        settings = parts.finish := by
  constructor
  · intro read
    obtain ⟨parts, partsRead, finished⟩ := bind_eq_ok_iff.mp read
    exact ⟨parts, partsRead, (Except.ok.inj finished).symm⟩
  · rintro ⟨parts, partsRead, rfl⟩
    exact bind_eq_ok_iff.mpr ⟨parts, partsRead, rfl⟩

theorem exists_readSettings_iff {origin : Origin} {fields : List (String × Document)} :
    (∃ settings, (Document.object fields).readSettings origin = .ok settings) ↔
      (∀ field ∈ fields, Readable origin field) ∧ fields.Pairwise fun a b => ¬ Repeats a.1 b.1 := by
  have nothing : ∀ setting, ¬ Gives {} setting := by simp [Gives]
  have parts : (∃ settings, (Document.object fields).readSettings origin = .ok settings) ↔
      ∃ parts, readObject (SettingsParts.add origin) fields {} = .ok parts := by
    simp only [readSettings_object_eq_ok_iff]
    constructor
    · rintro ⟨settings, parts, partsRead, -⟩
      exact ⟨parts, partsRead⟩
    · rintro ⟨parts, partsRead⟩
      exact ⟨parts.finish, parts, partsRead, rfl⟩
  rw [parts, exists_readObject_iff]
  simp only [nothing, not_false_eq_true, and_true]

end LanguageDetection.Document
