import LanguageDetection.Proofs.Settings.Mappings
import LanguageDetection.Proofs.Signature.Building

/-!
Settings written as a document and read again. What is read has one form already, so that it is read
back as it is written; only extensions that a language lists several times are listed once.
-/

namespace LanguageDetection

open LanguageDetection.Text

/-- A language without the extensions that it lists again. -/
def CustomLanguage.withoutRepeats (language : CustomLanguage) : CustomLanguage :=
  { language with extensions := language.extensions.eraseDups }

def Settings.withoutRepeats (settings : Settings) : Settings :=
  { settings with languages := settings.languages.map CustomLanguage.withoutRepeats }

/-- Settings whose extensions are in their kept forms, and mapped to trimmed names. -/
structure Settings.IsNormal (settings : Settings) : Prop where
  kept : KeptExtensions settings.extensions
  trimmed : ∀ mapping ∈ settings.extensions, trim mapping.2 = mapping.2
  listed : ∀ language ∈ settings.languages, ∀ extension ∈ language.extensions,
    Extension.normalize? extension = some extension

theorem trim_trim (text : String) : trim (trim text) = trim text := by
  rw [← String.toList_inj, toList_trim, toList_trim, trimChars_trimChars]

namespace Document

def isArray : Document → Bool
  | .array _ => true
  | _ => false

def itemsOfArray : Document → List Document
  | .array items => items
  | _ => []

def languageNames : List String := ["name", "rules", "extensions"]

def languageDocuments (document : Document) : List Document :=
  ((document.fieldsFor settingNames).filter (settingName ·.1 = "languages")).flatMap
    (·.2.itemsOfArray)

/-- Whether each language that lists extensions lists them in an array. -/
def ListsExtensions (document : Document) : Prop :=
  ∀ language ∈ document.languageDocuments, ∀ part ∈ language.fieldsFor languageNames,
    part.1 = "extensions" → part.2.isArray = true

instance (document : Document) : Decidable document.ListsExtensions :=
  inferInstanceAs (Decidable (∀ language ∈ document.languageDocuments,
    ∀ part ∈ language.fieldsFor languageNames, part.1 = "extensions" → part.2.isArray = true))

theorem foldl_withoutRepeats (items known : List String) :
    items.foldl (fun known item => if known.contains item then known else known ++ [item]) known =
      known ++ (items.filter (!known.contains ·)).eraseDups := by
  induction items generalizing known with
  | nil => simp
  | cons item items ih =>
      rw [List.foldl_cons, List.filter_cons, ih]
      cases isKnown : known.contains item with
      | true => simp
      | false =>
          have others : (items.filter fun other => !(known ++ [item]).contains other) =
              (items.filter fun other => !known.contains other).filter (!· == item) := by
            rw [List.filter_filter]
            refine List.filter_congr fun other _ => ?_
            rw [List.contains_append, Bool.not_or, Bool.and_comm, List.contains_cons,
              List.contains_nil, Bool.or_false]
          rw [if_neg Bool.false_ne_true, Bool.not_false, if_pos rfl, others, List.eraseDups_cons,
            List.append_assoc, List.singleton_append]

theorem withoutRepeats_eq (items : List String) : withoutRepeats items = items.eraseDups := by
  rw [withoutRepeats, foldl_withoutRepeats, List.nil_append]
  exact congrArg List.eraseDups (List.filter_eq_self.mpr fun _ _ => rfl)

theorem nodup_foldl_withoutRepeats (items : List String) {known : List String}
    (nodup : known.Nodup) :
    (items.foldl (fun known item => if known.contains item then known else known ++ [item])
      known).Nodup := by
  induction items generalizing known with
  | nil => exact nodup
  | cons item items ih =>
      rw [List.foldl_cons]
      apply ih
      split
      · exact nodup
      · rename_i isNew
        rw [← List.concat_eq_append]
        exact nodup.concat (fun member => isNew (List.contains_iff_mem.mpr member))

theorem nodup_withoutRepeats (items : List String) : (withoutRepeats items).Nodup :=
  nodup_foldl_withoutRepeats items List.nodup_nil

theorem eraseDups_eq_self {items : List String} (nodup : items.Nodup) : items.eraseDups = items := by
  induction items with
  | nil => rfl
  | cons item items ih =>
      obtain ⟨absent, rest⟩ := List.nodup_cons.mp nodup
      have others : items.filter (!· == item) = items := by
        refine List.filter_eq_self.mpr fun other member => ?_
        simpa using fun same : other = item => absent (same ▸ member)
      rw [List.eraseDups_cons, others, ih rest]

theorem within_eq_ok_iff {α : Type} {label : String} {reading : Reading α} {value : α} :
    within label reading = .ok value ↔ reading = .ok value := by
  cases reading <;> simp [within, Except.mapError]

theorem exists_item_of_readItemsFrom {α : Type} {read : Document → Reading α} {place : Nat}
    {items : List Document} {values : List α}
    (wasRead : readItemsFrom read place items = .ok values) :
    ∀ value ∈ values, ∃ item ∈ items, read item = .ok value := by
  induction items generalizing place values with
  | nil =>
      obtain rfl := Except.ok.inj wasRead
      exact List.forall_mem_nil _
  | cons item items ih =>
      obtain ⟨value, itemRead, wasRead⟩ := bind_eq_ok_iff.mp wasRead
      obtain ⟨values', restRead, same⟩ := bind_eq_ok_iff.mp wasRead
      obtain rfl := Except.ok.inj same
      refine List.forall_mem_cons.mpr
        ⟨⟨item, List.mem_cons_self, within_eq_ok_iff.mp itemRead⟩, fun value' member => ?_⟩
      obtain ⟨item', itemMember, itemRead'⟩ := ih restRead value' member
      exact ⟨item', List.mem_cons_of_mem _ itemMember, itemRead'⟩

section

variable {origin : Origin} {document : Document}

theorem extensions_of_readLanguage {language : CustomLanguage}
    (wasRead : document.readLanguage origin = .ok language) :
    language.extensions = [] ∨ ∃ part ∈ document.fieldsFor languageNames,
      part.1 = "extensions" ∧ part.2.readExtensions = .ok language.extensions := by
  have kept : ∀ field ∈ document.fieldsFor languageNames, ∀ {parts parts' label},
      ReadFrom (document.fieldsFor languageNames) (· = "extensions")
        readExtensions parts.extensions →
      LanguageParts.add origin parts label field.1 field.2 = .ok parts' →
      ReadFrom (document.fieldsFor languageNames) (· = "extensions")
        readExtensions parts'.extensions := by
    intro field member parts parts' label readFrom added
    unfold LanguageParts.add at added
    split at added
    case h_3 named =>
      obtain ⟨filled, fills, same⟩ := bind_eq_ok_iff.mp added
      obtain ⟨-, extensions, extensionsRead, rfl⟩ := fill_eq_ok_iff.mp fills
      obtain rfl := Except.ok.inj same
      exact .of_mem member named extensionsRead
    case h_4 => exact Except.ok.inj added ▸ readFrom
    -- The name and the rules leave the extensions alone.
    all_goals
      obtain ⟨_, -, same⟩ := bind_eq_ok_iff.mp added
      exact Except.ok.inj same ▸ readFrom
  obtain ⟨missing, parts, readFrom, finished⟩ :=
    exists_parts_of_readStructure kept readFrom_none wasRead
  obtain ⟨name, -, same⟩ := bind_eq_ok_iff.mp finished
  obtain rfl := Except.ok.inj same
  exact readFrom.getD []

theorem normalize?_of_readExtensions {extensions : List String}
    (wasRead : document.readExtensions = .ok extensions) :
    ∀ extension ∈ extensions, Extension.normalize? extension = some extension := by
  have ofTexts (texts : List String) : ∀ extension ∈ texts.filterMap Extension.normalize?,
      Extension.normalize? extension = some extension := by
    intro extension member
    obtain ⟨text, -, kept⟩ := List.mem_filterMap.mp member
    exact Extension.normalize?_of_normalize?_eq_some kept
  cases document with
  | text value =>
      obtain rfl := Except.ok.inj wasRead
      exact ofTexts _
  | char value =>
      obtain rfl := Except.ok.inj wasRead
      exact ofTexts _
  | array items =>
      obtain ⟨texts, -, rfl⟩ := map_eq_ok_iff.mp wasRead
      intro extension member
      rw [extensionsOfTexts, withoutRepeats_eq, List.mem_eraseDups] at member
      exact ofTexts texts extension member
  | _ => contradiction

theorem nodup_of_readExtensions {extensions : List String} (listed : document.isArray = true)
    (wasRead : document.readExtensions = .ok extensions) : extensions.Nodup := by
  cases document with
  | array items =>
      obtain ⟨texts, -, rfl⟩ := map_eq_ok_iff.mp wasRead
      exact nodup_withoutRepeats _
  | _ => contradiction

end

section

variable {origin : Origin} {document : Document} {settings : Settings}

theorem trim_of_readMappings {extensions : Dictionary String}
    (wasRead : document.readMappings = .ok extensions) :
    ∀ mapping ∈ extensions, trim mapping.2 = mapping.2 := by
  obtain ⟨table, rfl⟩ := exists_table_of_readMappings wasRead
  intro mapping member
  obtain ⟨entry, -, -, same⟩ := exists_of_mem_mappingsOfTable member
  rw [← same, trim_trim]

theorem exists_document_of_mem_languages
    (wasRead : document.readSettings origin = .ok settings) :
    ∀ language ∈ settings.languages,
      ∃ item ∈ document.languageDocuments, item.readLanguage origin = .ok language := by
  rcases (isField_languages origin).eq_default_or_exists_field rfl (·.languages) []
    (fun _ => rfl) wasRead with default | ⟨⟨name, value⟩, member, named, languagesRead⟩
  · rw [default]
    exact List.forall_mem_nil _
  · intro language isLanguage
    cases value with
    | array items =>
        obtain ⟨item, itemMember, itemRead⟩ :=
          exists_item_of_readItemsFrom languagesRead language isLanguage
        refine ⟨item, List.mem_flatMap.mpr ⟨(name, .array items), ?_, itemMember⟩, itemRead⟩
        exact List.mem_filter.mpr ⟨member, decide_eq_true named⟩
    | _ => contradiction

theorem isNormal_of_readSettings (wasRead : document.readSettings origin = .ok settings) :
    settings.IsNormal := by
  refine ⟨keptExtensions_of_readSettings wasRead, ?_, ?_⟩
  · rcases (isField_extensions origin).eq_default_or_exists_field rfl (·.extensions) []
      (fun _ => rfl) wasRead with default | ⟨field, -, -, extensionsRead⟩
    · rw [default]
      exact List.forall_mem_nil _
    · exact trim_of_readMappings extensionsRead
  · intro language member
    obtain ⟨item, -, languageRead⟩ := exists_document_of_mem_languages wasRead language member
    rcases extensions_of_readLanguage languageRead with default | ⟨part, -, -, extensionsRead⟩
    · rw [default]
      exact List.forall_mem_nil _
    · exact normalize?_of_readExtensions extensionsRead

theorem nodup_of_listsExtensions (lists : document.ListsExtensions)
    (wasRead : document.readSettings origin = .ok settings) :
    ∀ language ∈ settings.languages, language.extensions.Nodup := by
  intro language member
  obtain ⟨item, itemMember, languageRead⟩ := exists_document_of_mem_languages wasRead language member
  rcases extensions_of_readLanguage languageRead with
    default | ⟨part, partMember, partNamed, extensionsRead⟩
  · rw [default]
    exact List.nodup_nil
  · exact nodup_of_readExtensions (lists item itemMember part partMember partNamed) extensionsRead

end

theorem readItemsFrom_map {α β : Type} {read : Document → Reading β} {write : α → Document}
    {f : α → β} {values : List α} (readsBack : ∀ value ∈ values, read (write value) = .ok (f value))
    (place : Nat) : readItemsFrom read place (values.map write) = .ok (values.map f) := by
  induction values generalizing place with
  | nil => rfl
  | cons value values ih =>
      obtain ⟨first, rest⟩ := List.forall_mem_cons.mp readsBack
      refine bind_eq_ok_iff.mpr ⟨f value, within_eq_ok_iff.mpr first, ?_⟩
      exact bind_eq_ok_iff.mpr ⟨values.map f, ih rest (place + 1), rfl⟩

theorem readFields_map (table : Dictionary String) :
    readFields readText (table.map fun (e, l) => (e, .text l)) = .ok table := by
  induction table with
  | nil => rfl
  | cons entry table ih =>
      exact readFields_cons_eq_ok_iff.mpr ⟨entry.2, table, rfl, ih, rfl⟩

theorem readNatural_unsigned {size value : Nat} (small : value < size) (expected : String) :
    (unsigned value).readNatural size expected = .ok value := by
  have inRange : (decide (0 ≤ (value : Int)) && decide ((value : Int) < size)) = true := by
    rw [Bool.and_eq_true, decide_eq_true_eq, decide_eq_true_eq]
    omega
  rw [readNatural]
  exact if_pos inRange

theorem readUInt32_unsigned (n : UInt32) : (unsigned n.toNat).readUInt32 = .ok n := by
  rw [readUInt32, readNatural_unsigned n.toNat_lt]
  exact congrArg Except.ok UInt32.ofNat_toNat

theorem readUInt64_unsigned (n : UInt64) : (unsigned n.toNat).readUInt64 = .ok n := by
  rw [readUInt64, readNatural_unsigned n.toNat_lt]
  exact congrArg Except.ok UInt64.ofNat_toNat

theorem readProfile_text (origin : Origin) (profile : Profile) :
    (text profile.name).readProfile origin = .ok profile := by
  cases origin <;> cases profile <;> rfl

section

variable {σ : Type} {add : AddField σ} {parts next parts' : σ} {name : String} {value : Document}
  {rest : List (String × Document)}

theorem readObject_nil : readObject add [] parts = .ok parts := rfl

theorem readObject_cons (added : add parts name name value = .ok next)
    (restRead : readObject add rest next = .ok parts') :
    readObject add ((name, value) :: rest) parts = .ok parts' :=
  bind_eq_ok_iff.mpr ⟨next, added, restRead⟩

end

theorem readRule_toDocument (origin : Origin) (rule : CustomRule) :
    rule.toDocument.readRule origin = .ok rule := by
  have pattern : RuleParts.add {} "pattern" "pattern" (text rule.pattern) =
      .ok { pattern := some rule.pattern } := rfl
  have weight : RuleParts.add { pattern := some rule.pattern } "weight" "weight"
      (unsigned rule.weight.toNat) =
        .ok { pattern := some rule.pattern, weight := some rule.weight } :=
    bind_eq_ok_iff.mpr
      ⟨_, fill_eq_ok_iff.mpr ⟨rfl, _, readUInt32_unsigned rule.weight, rfl⟩, rfl⟩
  have fields := readObject_cons pattern (readObject_cons weight readObject_nil)
  exact bind_eq_ok_iff.mpr ⟨_, fields, rfl⟩

theorem readMappings_toDocument {extensions : Dictionary String} (kept : KeptExtensions extensions)
    (trimmed : ∀ mapping ∈ extensions, trim mapping.2 = mapping.2) :
    (object (extensions.map fun (e, l) => (e, .text l))).readMappings = .ok extensions := by
  have same : (extensions.filterMap fun (key, id) =>
      (Extension.normalize? key).map fun extension => (extension, trim id)) = extensions := by
    calc
      _ = extensions.filterMap some := List.filterMap_congr fun (key, id) member => by
        simp only [kept.normalize?_eq (key, id) member, trimmed (key, id) member, Option.map_some]
      _ = extensions := List.filterMap_some
  rw [readMappings, readFields_map]
  apply congrArg Except.ok
  rw [mappingsOfTable, kept.ascending.ofList_eq, same, kept.ascending.ofList_eq]

theorem readExtensions_array {extensions : List String}
    (listed : ∀ extension ∈ extensions, Extension.normalize? extension = some extension) :
    (array (extensions.map text)).readExtensions = .ok extensions.eraseDups := by
  have texts : readItemsFrom readText 0 (extensions.map text) = .ok (extensions.map id) :=
    readItemsFrom_map (fun extension _ => show readText (text extension) = .ok extension from rfl) 0
  have same : extensions.filterMap Extension.normalize? = extensions := by
    rw [List.filterMap_congr listed, List.filterMap_some]
  rw [readExtensions, texts, List.map_id]
  apply congrArg Except.ok
  rw [extensionsOfTexts, same, withoutRepeats_eq]

theorem readLanguage_toDocument (origin : Origin) {language : CustomLanguage}
    (listed : ∀ extension ∈ language.extensions, Extension.normalize? extension = some extension) :
    language.toDocument.readLanguage origin = .ok language.withoutRepeats := by
  have rulesRead : (array (language.rules.map CustomRule.toDocument)).readArray
      (readRule origin) = .ok (language.rules.map id) :=
    readItemsFrom_map (fun rule _ => readRule_toDocument origin rule) 0
  rw [List.map_id] at rulesRead
  have name : LanguageParts.add origin {} "name" "name" (text language.name) =
      .ok { name := some language.name } := rfl
  have rules : LanguageParts.add origin { name := some language.name } "rules" "rules"
      (array (language.rules.map CustomRule.toDocument)) =
        .ok { name := some language.name, rules := some language.rules } :=
    bind_eq_ok_iff.mpr ⟨_, fill_eq_ok_iff.mpr ⟨rfl, _, rulesRead, rfl⟩, rfl⟩
  have extensions : LanguageParts.add origin
      { name := some language.name, rules := some language.rules } "extensions" "extensions"
      (array (language.extensions.map text)) =
        .ok ⟨some language.name, some language.rules, some language.extensions.eraseDups⟩ :=
    bind_eq_ok_iff.mpr
      ⟨_, fill_eq_ok_iff.mpr ⟨rfl, _, readExtensions_array listed, rfl⟩, rfl⟩
  have fields := readObject_cons name
    (readObject_cons rules (readObject_cons extensions readObject_nil))
  exact bind_eq_ok_iff.mpr ⟨_, fields, rfl⟩

theorem readSettings_toDocument (origin : Origin) {settings : Settings}
    (normal : settings.IsNormal) :
    settings.toDocument.readSettings origin = .ok settings.withoutRepeats := by
  have languagesRead : (array (settings.languages.map CustomLanguage.toDocument)).readArray
      (readLanguage origin) = .ok settings.withoutRepeats.languages :=
    readItemsFrom_map (fun language member =>
      readLanguage_toDocument origin (normal.listed language member)) 0
  have extensionsRead := readMappings_toDocument normal.kept normal.trimmed
  rw [Settings.toDocument, readSettings_object_eq_ok_iff]
  refine ⟨⟨some settings.profile, some settings.maxFileBytes, some settings.respectGitignore,
    some settings.followSymlinks, some settings.extensionHint, some settings.extensions,
    some settings.withoutRepeats.languages⟩, ?_, rfl⟩
  refine readObject_cons (adds_iff.mpr (.profile rfl rfl (readProfile_text _ _))) ?_
  refine readObject_cons (adds_iff.mpr (.maxFileBytes rfl rfl (readUInt64_unsigned _))) ?_
  refine readObject_cons (adds_iff.mpr (.respectGitignore rfl rfl rfl)) ?_
  refine readObject_cons (adds_iff.mpr (.followSymlinks rfl rfl rfl)) ?_
  refine readObject_cons (adds_iff.mpr (.extensionHint rfl rfl rfl)) ?_
  refine readObject_cons (adds_iff.mpr (.extensions rfl rfl extensionsRead)) ?_
  exact readObject_cons (adds_iff.mpr (.languages rfl rfl languagesRead)) readObject_nil

end Document

namespace Settings

theorem withoutRepeats_eq_self {settings : Settings}
    (nodup : ∀ language ∈ settings.languages, language.extensions.Nodup) :
    settings.withoutRepeats = settings := by
  have same : settings.languages.map CustomLanguage.withoutRepeats = settings.languages := by
    calc
      _ = settings.languages.map id := List.map_congr_left fun language member => by
        rw [CustomLanguage.withoutRepeats, Document.eraseDups_eq_self (nodup language member), id]
      _ = settings.languages := List.map_id _
  rw [withoutRepeats, same]

/-- Settings that were read are written in the one form that is read back as it is, whatever
document they were read from. -/
theorem ofJson_normalizes {document : Document} {settings : Settings}
    (wasRead : ofJson document = .ok settings) :
    (∀ mapping ∈ settings.extensions,
      Extension.normalize? mapping.1 = some mapping.1 ∧ trim mapping.2 = mapping.2) ∧
    (∀ language ∈ settings.languages, ∀ extension ∈ language.extensions,
      Extension.normalize? extension = some extension) ∧
    ofJson settings.toDocument = .ok settings.withoutRepeats ∧
    (document.ListsExtensions → ofJson settings.toDocument = .ok settings) := by
  have normal := Document.isNormal_of_readSettings wasRead
  have readBack : ofJson settings.toDocument = .ok settings.withoutRepeats :=
    Document.readSettings_toDocument .json normal
  refine ⟨fun mapping member => ⟨normal.kept.normalize?_eq mapping member,
    normal.trimmed mapping member⟩, normal.listed, readBack, fun lists => ?_⟩
  rw [readBack, withoutRepeats_eq_self (Document.nodup_of_listsExtensions lists wasRead)]

/-- Settings under other names, with extensions in a text that repeats one. -/
def respelled : Document :=
  .object [("extension_map", .object [(" H", .text "c "), ("M", .text "matlab")]),
    ("language", .array [.object [("name", .text "fortran"), ("extensions", .text "F, f90,.f")]])]

/-- The same settings as an array of their values, with the extensions in an array. -/
def inArrays : Document :=
  .array [.text "standard", .unsigned 10485760, .bool true, .bool false, .bool true,
    .object [("h", .text "c"), (".m", .text "matlab")],
    .array [.array [.text "fortran", .array [], .array [.text "f", .text "f90", .text ".F"]]]]

theorem ofJson_normalizes_aliases :
    (∃ settings, ofJson respelled = .ok settings ∧
      settings.extensions = [(".h", "c"), (".m", "matlab")] ∧
      settings.languages = [⟨"fortran", [], [".f", ".f90", ".f"]⟩] ∧
      ofJson settings.toDocument =
        .ok { settings with languages := [⟨"fortran", [], [".f", ".f90"]⟩] }) ∧
    ∃ settings, ofJson inArrays = .ok settings ∧
      settings.languages = [⟨"fortran", [], [".f", ".f90"]⟩] ∧
      ofJson settings.toDocument = .ok settings := by
  constructor
  · obtain ⟨settings, wasRead, extensions, languages⟩ :
        ∃ settings, ofJson respelled = .ok settings ∧
          settings.extensions = [(".h", "c"), (".m", "matlab")] ∧
          settings.languages = [⟨"fortran", [], [".f", ".f90", ".f"]⟩] := by
      apply exists_of_check
      decide +kernel
    obtain ⟨-, -, readBack, -⟩ := ofJson_normalizes wasRead
    rw [withoutRepeats, languages] at readBack
    exact ⟨settings, wasRead, extensions, languages, readBack⟩
  · obtain ⟨settings, wasRead, languages⟩ :
        ∃ settings, ofJson inArrays = .ok settings ∧
          settings.languages = [⟨"fortran", [], [".f", ".f90"]⟩] := by
      apply exists_of_check
      decide +kernel
    obtain ⟨-, -, -, exactly⟩ := ofJson_normalizes wasRead
    exact ⟨settings, wasRead, languages, exactly (by decide)⟩

end Settings

end LanguageDetection
