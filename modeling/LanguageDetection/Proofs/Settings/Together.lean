import LanguageDetection.Files.Tree
import LanguageDetection.Proofs.Settings.Layered
import LanguageDetection.Proofs.Settings.Mappings

/-!
Two layers together: they are read unless a setting goes by different names in them, and a mapping of
an extension comes from the layer that has the greatest key for it.
-/

namespace LanguageDetection

open LanguageDetection.Files
open LanguageDetection.Text

namespace Document

section

variable {fields below above : List (String × Document)}

theorem exists_readMappings_iff {document : Document} :
    (∃ mappings, document.readMappings = .ok mappings) ↔
      ∃ fields, document = .object fields ∧ ∀ field ∈ fields, ∃ text, field.2.readText = .ok text := by
  cases document with
  | object fields =>
      simp only [object.injEq, exists_eq_left', ← exists_readFields_iff, readMappings]
      cases readFields readText fields <;> simp [Except.map]
  | _ => simp [readMappings, mismatch, ReadCause.fail]

theorem Readable.readMappings {origin : Origin} {name : String} {document : Document}
    (readable : Readable origin (name, document)) (named : settingName name = "extensions") :
    ∃ mappings, document.readMappings = .ok mappings := by
  obtain ⟨parts, adds⟩ := readable
  obtain ⟨-, mappings, read, -⟩ := (isField_extensions origin).reads adds named
  exact ⟨mappings, read⟩

theorem overlayOn_of_readText {below? : Option Document} {above : Document} {text : String}
    (read : above.readText = .ok text) : overlayOn below? above = above := by
  have notObject : ∀ fields, above ≠ .object fields := by
    rintro fields rfl
    contradiction
  cases below? with
  | none => rfl
  | some below => exact overlay_of_not_object notObject

theorem Readable.overlay {name : String} {below above : Document}
    (belowReadable : Readable .layers (name, below)) (aboveReadable : Readable .layers (name, above))
    (abovePlain : above.IsPlain) : Readable .layers (name, below.overlay above) := by
  obtain ⟨parts, adds⟩ := aboveReadable
  cases adds with
  | profile named unset read =>
      rw [overlay_of_not_object (Scalar.isRead_profile.not_object abovePlain read)]
      exact ⟨_, .profile named unset read⟩
  | maxFileBytes named unset read =>
      rw [overlay_of_not_object (Scalar.isRead_maxFileBytes.not_object abovePlain read)]
      exact ⟨_, .maxFileBytes named unset read⟩
  | respectGitignore named unset read =>
      rw [overlay_of_not_object (Scalar.isRead_respectGitignore.not_object abovePlain read)]
      exact ⟨_, .respectGitignore named unset read⟩
  | followSymlinks named unset read =>
      rw [overlay_of_not_object (Scalar.isRead_followSymlinks.not_object abovePlain read)]
      exact ⟨_, .followSymlinks named unset read⟩
  | extensionHint named unset read =>
      rw [overlay_of_not_object (Scalar.isRead_extensionHint.not_object abovePlain read)]
      exact ⟨_, .extensionHint named unset read⟩
  | extensions named unset read =>
      obtain ⟨belowFields, rfl, belowTexts⟩ :=
        exists_readMappings_iff.mp (belowReadable.readMappings named)
      obtain ⟨aboveFields, rfl, aboveTexts⟩ := exists_readMappings_iff.mp ⟨_, read⟩
      have texts : ∀ field ∈ overlayFields belowFields aboveFields,
          ∃ text, field.2.readText = .ok text := by
        let isText (document : Document) : Prop := ∃ text, document.readText = .ok text
        refine @mem_overlayFields _ _ isText belowTexts fun field member below? _ => ?_
        obtain ⟨text, textRead⟩ := aboveTexts field member
        rw [overlayOn_of_readText textRead]
        exact ⟨text, textRead⟩
      rw [overlay_object]
      obtain ⟨mappings, read⟩ := exists_readMappings_iff.mpr ⟨_, rfl, texts⟩
      exact ⟨_, .extensions named rfl read⟩
  | languages named unset read =>
      have notObject : ∀ fields, above ≠ .object fields := by
        rintro fields rfl
        contradiction
      rw [overlay_of_not_object notObject]
      exact ⟨_, .languages named unset read⟩
  | other unknown => exact ⟨_, .other unknown⟩

theorem isSome_find?_overlayFields (ascending : Dictionary.Ascending above) (name : String) :
    (Dictionary.find? (overlayFields below above) name).isSome ↔
      (Dictionary.find? below name).isSome ∨ (Dictionary.find? above name).isSome := by
  rw [find?_overlayFields ascending]
  cases Dictionary.find? above name <;> simp

theorem pairwise_not_repeats_iff (ascending : Dictionary.Ascending fields) :
    (fields.Pairwise fun a b => ¬ Repeats a.1 b.1) ↔
      ∀ a b, (Dictionary.find? fields a).isSome → (Dictionary.find? fields b).isSome → a ≠ b →
        ¬ Repeats a b := by
  constructor
  · intro pairwise a b aFound bFound different
    obtain ⟨aValue, aFound⟩ := Option.isSome_iff_exists.mp aFound
    obtain ⟨bValue, bFound⟩ := Option.isSome_iff_exists.mp bFound
    have : Std.Symm fun a b : String × Document => ¬ Repeats a.1 b.1 :=
      ⟨fun a b apart repeats => apart repeats.symm⟩
    refine List.Pairwise.forall pairwise ((ascending.mem_iff a aValue).mpr aFound)
      ((ascending.mem_iff b bValue).mpr bFound) ?_
    exact fun same => different (congrArg Prod.fst same)
  · intro apart
    refine List.Pairwise.imp_of_mem ?_ ascending
    intro a b aMember bMember less
    have aFound := (ascending.mem_iff a.1 a.2).mp aMember
    have bFound := (ascending.mem_iff b.1 b.2).mp bMember
    exact apart a.1 b.1 (by simp [aFound]) (by simp [bFound]) less.ne

/-- Whether some setting goes by one name below and by another above. -/
def Clash (below above : List (String × Document)) : Prop :=
  ∃ a b, (Dictionary.find? below a).isSome ∧ (Dictionary.find? above b).isSome ∧ a ≠ b ∧ Repeats a b

theorem readable_overlayFields (belowAscending : Dictionary.Ascending below)
    (abovePlain : (Document.object above).IsPlain)
    (belowReadable : ∀ field ∈ below, Readable .layers field)
    (aboveReadable : ∀ field ∈ above, Readable .layers field) :
    ∀ field ∈ overlayFields below above, Readable .layers field := by
  rintro ⟨name, document⟩ member
  have aboveAscending : Dictionary.Ascending above := abovePlain.ascending
  have found := ((ascending_overlayFields belowAscending).mem_iff name document).mp member
  rw [find?_overlayFields aboveAscending] at found
  cases inAbove : Dictionary.find? above name with
  | none =>
      rw [inAbove] at found
      exact belowReadable _ ((belowAscending.mem_iff name document).mpr found)
  | some upper =>
      have upperReadable := aboveReadable _ ((aboveAscending.mem_iff _ _).mpr inAbove)
      rw [inAbove] at found
      obtain rfl := Option.some.inj found
      cases inBelow : Dictionary.find? below name with
      | none => exact upperReadable
      | some lower =>
          have lowerReadable := belowReadable _ ((belowAscending.mem_iff _ _).mpr inBelow)
          exact lowerReadable.overlay upperReadable (abovePlain.field inAbove)

/-- Layers that are read alone are read together unless they clash. -/
theorem exists_readSettings_overlayFields_iff (belowAscending : Dictionary.Ascending below)
    (abovePlain : (Document.object above).IsPlain)
    (belowRead : ∃ settings, (Document.object below).readSettings .layers = .ok settings)
    (aboveRead : ∃ settings, (Document.object above).readSettings .layers = .ok settings) :
    (∃ settings, (Document.object (overlayFields below above)).readSettings .layers = .ok settings) ↔
      ¬ Clash below above := by
  have aboveAscending : Dictionary.Ascending above := abovePlain.ascending
  obtain ⟨belowReadable, belowApart⟩ := exists_readSettings_iff.mp belowRead
  obtain ⟨aboveReadable, aboveApart⟩ := exists_readSettings_iff.mp aboveRead
  rw [pairwise_not_repeats_iff belowAscending] at belowApart
  rw [pairwise_not_repeats_iff aboveAscending] at aboveApart
  rw [exists_readSettings_iff, pairwise_not_repeats_iff (ascending_overlayFields belowAscending)]
  simp only [isSome_find?_overlayFields aboveAscending]
  constructor
  · rintro ⟨-, apart⟩ ⟨a, b, aFound, bFound, different, repeats⟩
    exact apart a b (.inl aFound) (.inr bFound) different repeats
  · intro noClash
    refine ⟨readable_overlayFields belowAscending abovePlain belowReadable aboveReadable, ?_⟩
    rintro a b (aFound | aFound) (bFound | bFound) different repeats
    · exact belowApart a b aFound bFound different repeats
    · exact noClash ⟨a, b, aFound, bFound, different, repeats⟩
    · exact noClash ⟨b, a, bFound, aFound, different.symm, repeats.symm⟩
    · exact aboveApart a b aFound bFound different repeats

/-- The table of extensions, by either of its names. -/
def extensionTable (fields : List (String × Document)) : List (String × Document) :=
  ((Dictionary.find? fields "extensions").or (Dictionary.find? fields "extension_map")).elim []
    Document.fields

theorem settingName_eq_extensions_iff {name : String} :
    settingName name = "extensions" ↔ name = "extensions" ∨ name = "extension_map" := by
  unfold settingName
  split <;> simp_all

theorem find?_extensions_of_readSettings (plain : (Document.object fields).IsPlain)
    {settings : Settings} (read : (Document.object fields).readSettings .layers = .ok settings)
    (extension id : String) :
    settings.extensions.find? extension = some id ↔ Maps (extensionTable fields) extension id := by
  obtain ⟨parts, partsRead, rfl⟩ := readSettings_object_eq_ok_iff.mp read
  have isField := isField_extensions .layers
  have named : ∀ {name document}, settingName name = "extensions" →
      Dictionary.find? fields name = some document →
      (parts.finish.extensions.find? extension = some id ↔ Maps document.fields extension id) := by
    intro name document named found
    have member := (plain.ascending.mem_iff name document).mpr found
    obtain ⟨mappings, mappingsRead, isSet⟩ := isField.get_of_mem member named partsRead
    obtain ⟨inner, rfl, -⟩ := exists_readMappings_iff.mp ⟨mappings, mappingsRead⟩
    have same : parts.finish.extensions = mappings := by
      rw [SettingsParts.finish, isSet]
      rfl
    rw [same]
    exact find?_of_readMappings (plain.field found).ascending mappingsRead extension id
  cases first : Dictionary.find? fields "extensions" with
  | some document =>
      rw [extensionTable, first]
      exact named rfl first
  | none =>
      cases second : Dictionary.find? fields "extension_map" with
      | some document =>
          rw [extensionTable, first, second]
          exact named rfl second
      | none =>
          have absent : ∀ field ∈ fields, settingName field.1 ≠ "extensions" := by
            intro field member named
            have found : Dictionary.find? fields field.1 = some field.2 :=
              (plain.ascending.mem_iff field.1 field.2).mp member
            cases settingName_eq_extensions_iff.mp named with
            | inl isFirst => simp [isFirst, first] at found
            | inr isSecond => simp [isSecond, second] at found
          have unset := isField.get_of_absent absent partsRead
          have same : parts.finish.extensions = [] := by
            rw [SettingsParts.finish, unset]
            rfl
          rw [same, extensionTable, first, second]
          simp only [Option.or_none, Option.elim_none, Maps, Dictionary.find?_nil]
          constructor
          · intro found
            contradiction
          · rintro ⟨key, document, text, greatest, -⟩
            exact absurd greatest.found (by simp)

theorem find?_fields_overlayOn {below? above? : Option Document} {key : String}
    (aboveRead : ∀ above, above? = some above →
      above.IsPlain ∧ ∃ mappings, above.readMappings = .ok mappings) :
    Dictionary.find? (((above?.map (overlayOn below?)).or below?).elim [] Document.fields) key =
      (Dictionary.find? (above?.elim [] Document.fields) key).or
        (Dictionary.find? (below?.elim [] Document.fields) key) := by
  cases above? with
  | none => rfl
  | some above =>
      cases below? with
      | none => simp [overlayOn]
      | some below =>
          obtain ⟨plain, mappings, read⟩ := aboveRead above rfl
          obtain ⟨inner, rfl, texts⟩ := exists_readMappings_iff.mp ⟨mappings, read⟩
          simp only [Option.map_some, Option.some_or, Option.elim_some, overlayOn, overlay_object]
          have ascending : Dictionary.Ascending inner := plain.ascending
          rw [Document.fields, find?_overlayFields ascending, Document.fields]
          cases found : Dictionary.find? inner key with
          | none => rfl
          | some document =>
              obtain ⟨text, textRead⟩ := texts _ (Dictionary.mem_of_find?_eq_some found)
              rw [Option.map_some, overlayOn_of_readText textRead]

/-- Where both layers are read, their table is the one table laid over the other. -/
theorem find?_extensionTable_overlayFields (belowAscending : Dictionary.Ascending below)
    (abovePlain : (Document.object above).IsPlain)
    (aboveReadable : ∀ field ∈ above, Readable .layers field)
    (apart : (overlayFields below above).Pairwise fun a b => ¬ Repeats a.1 b.1) (key : String) :
    Dictionary.find? (extensionTable (overlayFields below above)) key =
      (Dictionary.find? (extensionTable above) key).or
        (Dictionary.find? (extensionTable below) key) := by
  have aboveAscending : Dictionary.Ascending above := abovePlain.ascending
  have aboveRead : ∀ name, settingName name = "extensions" →
      ∀ table, Dictionary.find? above name = some table →
        table.IsPlain ∧ ∃ mappings, table.readMappings = .ok mappings := by
    intro name named table found
    have member := Dictionary.mem_of_find?_eq_some found
    exact ⟨abovePlain.field found, (aboveReadable _ member).readMappings named⟩
  -- Only one of the two names is there, below or above.
  have oneName : (Dictionary.find? (overlayFields below above) "extensions") = none ∨
      (Dictionary.find? (overlayFields below above) "extension_map") = none := by
    have repeats : Repeats "extensions" "extension_map" := ⟨rfl, by decide⟩
    by_contra both
    obtain ⟨first, second⟩ := not_or.mp both
    have pairwise := (pairwise_not_repeats_iff (ascending_overlayFields belowAscending)).mp apart
    exact pairwise _ _ (Option.isSome_iff_ne_none.mpr first) (Option.isSome_iff_ne_none.mpr second)
      (by decide) repeats
  have nothing : ∀ name, Dictionary.find? (overlayFields below above) name = none →
      Dictionary.find? below name = none ∧ Dictionary.find? above name = none := by
    intro name absent
    have found : ¬ (Dictionary.find? (overlayFields below above) name).isSome := by simp [absent]
    rw [isSome_find?_overlayFields aboveAscending] at found
    simpa using found
  cases oneName with
  | inl absent =>
      obtain ⟨belowAbsent, aboveAbsent⟩ := nothing _ absent
      simp only [extensionTable, absent, belowAbsent, aboveAbsent, Option.none_or]
      rw [find?_overlayFields aboveAscending]
      exact find?_fields_overlayOn (aboveRead "extension_map" rfl)
  | inr absent =>
      obtain ⟨belowAbsent, aboveAbsent⟩ := nothing _ absent
      simp only [extensionTable, absent, belowAbsent, aboveAbsent, Option.or_none]
      rw [find?_overlayFields aboveAscending]
      exact find?_fields_overlayOn (aboveRead "extensions" rfl)

/-- A mapping comes from the layer whose greatest key for the extension is the greater one. -/
theorem find?_extensions_of_overlayFields (belowPlain : (Document.object below).IsPlain)
    (abovePlain : (Document.object above).IsPlain) {lower upper settings : Settings}
    (belowRead : (Document.object below).readSettings .layers = .ok lower)
    (aboveRead : (Document.object above).readSettings .layers = .ok upper)
    (read : (Document.object (overlayFields below above)).readSettings .layers = .ok settings)
    (extension : String) :
    (Dictionary.Outranks (Extension.normalize? · = some extension) (extensionTable below)
        (extensionTable above) →
      settings.extensions.find? extension = lower.extensions.find? extension) ∧
    (¬ Dictionary.Outranks (Extension.normalize? · = some extension) (extensionTable below)
        (extensionTable above) →
      settings.extensions.find? extension = upper.extensions.find? extension) := by
  have plain : (Document.object (overlayFields below above)).IsPlain := by
    have laid := belowPlain.overlay abovePlain
    rw [overlay_object] at laid
    exact laid
  have belowAscending : Dictionary.Ascending below := belowPlain.ascending
  have aboveReadable := (exists_readSettings_iff.mp ⟨upper, aboveRead⟩).1
  have apart := (exists_readSettings_iff.mp ⟨settings, read⟩).2
  have union := find?_extensionTable_overlayFields belowAscending abovePlain aboveReadable apart
  constructor
  · intro outranks
    ext id
    rw [find?_extensions_of_readSettings plain read,
      find?_extensions_of_readSettings belowPlain belowRead]
    simp only [Maps, Dictionary.greatest_union_of_outranks union outranks]
  · intro notOutranks
    ext id
    rw [find?_extensions_of_readSettings plain read,
      find?_extensions_of_readSettings abovePlain aboveRead]
    simp only [Maps, Dictionary.greatest_union_of_not_outranks union notOutranks]

end

end Document

namespace SettingsSource

/-- A file and variables that load alone load together unless they clash. A mapping is what the
variables say, but for an extension that the file has a greater key for. -/
theorem load_together {source : SettingsSource} {files : FileSystem Id} {lower upper : Settings}
    (fileLoads : (({ source with environment := [] } : SettingsSource).load files).run.1 = .ok lower)
    (variablesLoad : source.settingsOf none = .ok upper) :
    ∃ chosen file, Chooses source files chosen ∧ source.Holds files chosen file ∧
      ((∃ settings, (source.load files).run.1 = .ok settings) ↔
        ¬ Document.Clash file.fields (Variables.document source.environment).fields) ∧
      ∀ settings, (source.load files).run.1 = .ok settings → ∀ extension,
        let outranks := Dictionary.Outranks (Extension.normalize? · = some extension)
          (Document.extensionTable file.fields)
          (Document.extensionTable (Variables.document source.environment).fields)
        (outranks → settings.extensions.find? extension = lower.extensions.find? extension) ∧
        (¬ outranks → settings.extensions.find? extension = upper.extensions.find? extension) := by
  obtain ⟨chosen, file, chooses, holds, belowRead⟩ := load_eq_ok_iff.mp fileLoads
  have sameFile := file?_eq_ok_iff.mpr chooses
  have chooses' : Chooses source files chosen := file?_eq_ok_iff.mp sameFile
  have holds' : source.Holds files chosen file := holds
  obtain ⟨_, rfl, aboveRead⟩ := (@settingsOf_eq_ok_iff source files none upper).mp variablesLoad
  refine ⟨chosen, file, chooses', holds', ?_⟩
  simp only [load_eq_ok_iff_of_holds chooses' holds']
  obtain ⟨belowPlain, isObject⟩ := holds'.isPlain
  obtain ⟨below, rfl⟩ : ∃ below, file = .object below := ⟨file.fields, isObject⟩
  have abovePlain := Variables.isPlain_document source.environment
  obtain ⟨above, isAbove⟩ : ∃ above, Variables.document source.environment = .object above :=
    ⟨_, Variables.document_eq_object source.environment⟩
  rw [isAbove] at abovePlain aboveRead ⊢
  rw [Document.overlay_nothing abovePlain] at aboveRead
  have belowRead : (Document.object below).readSettings .layers = .ok lower := by
    rw [← Document.overlay_with_nothing below]
    exact belowRead
  rw [Document.overlay_object]
  constructor
  · exact Document.exists_readSettings_overlayFields_iff belowPlain.ascending abovePlain
      ⟨lower, belowRead⟩ ⟨upper, aboveRead⟩
  · intro settings read extension
    exact Document.find?_extensions_of_overlayFields belowPlain abovePlain belowRead aboveRead read
      extension

def mappingSource (mappings : String) : SettingsSource where
  anchor := "/work"
  explicit := none
  directory := "/work"
  environment := [("LANGSNIFF_EXTENSIONS", mappings)]

def mappingFiles (text : String) : FileSystem Id :=
  Tree.fileSystem {
    root := .directory [("work", .directory [("langsniff.toml", .file text.toUTF8.data.toList)])]
    base := "/work" }

/-- A key that both spell alike is mapped as the variable says. -/
theorem load_together_sameKey :
    let source := mappingSource "\x7bh=\"cpp\"\x7d"
    let files := mappingFiles "[extensions]\nh = \"c\"\nx = \"rust\"\n"
    let lower : Settings := { extensions := [(".h", "c"), (".x", "rust")] }
    let upper : Settings := { extensions := [(".h", "cpp")] }
    (({ source with environment := [] } : SettingsSource).load files).run.1 = .ok lower ∧
      source.settingsOf none = .ok upper ∧
      (source.load files).run.1 = .ok { extensions := [(".h", "cpp"), (".x", "rust")] } ∧
      ∃ chosen file, Chooses source files chosen ∧ source.Holds files chosen file ∧
        ¬ Document.Clash file.fields (Variables.document source.environment).fields := by
  intro source files lower upper
  have fileLoads :
      (({ source with environment := [] } : SettingsSource).load files).run.1 = .ok lower := by
    decide +kernel
  have variablesLoad : source.settingsOf none = .ok upper := by
    decide +kernel
  have loads : (source.load files).run.1 =
      .ok { extensions := [(".h", "cpp"), (".x", "rust")] } := by
    decide +kernel
  obtain ⟨chosen, file, chooses, holds, loads_iff, -⟩ := load_together fileLoads variablesLoad
  exact ⟨fileLoads, variablesLoad, loads, chosen, file, chooses, holds, loads_iff.mp ⟨_, loads⟩⟩

/-- A greater key in the file hides the mapping of a variable, and under its other name the table of
the file cannot be loaded below a variable at all. -/
theorem load_together_otherSpelling :
    let lower : Settings := { extensions := [(".h", "c")] }
    let upper : Settings := { extensions := [(".h", "cpp")] }
    (let source := mappingSource "\x7bH=\"cpp\"\x7d"
      let files := mappingFiles "[extensions]\nh = \"c\"\n"
      (({ source with environment := [] } : SettingsSource).load files).run.1 = .ok lower ∧
        source.settingsOf none = .ok upper ∧ (source.load files).run.1 = .ok lower) ∧
    (let source := mappingSource "\x7bh=\"cpp\"\x7d"
      let files := mappingFiles "[extension_map]\nh = \"c\"\n"
      (({ source with environment := [] } : SettingsSource).load files).run.1 = .ok lower ∧
        source.settingsOf none = .ok upper ∧
        (source.load files).run.1 = .error (.unusable "duplicate field `extensions`")) := by
  decide +kernel

end SettingsSource

end LanguageDetection
