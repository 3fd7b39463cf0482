import LanguageDetection.Proofs.Settings.Mappings
import LanguageDetection.Proofs.Signature.Building
import LanguageDetection.Proofs.Text.ByteOrder

/-!
Tables whose keys collide. Keys with the same kept form leave one mapping, that of the key with the
greatest bytes, wherever it stands in the table. Nothing else is left out but what has no kept form.
-/

namespace LanguageDetection.Document

open LanguageDetection.Text

/-- The pair that counts for an extension: of the keys that are kept as the extension it has the one
with the greatest bytes. -/
structure Decides {α : Type} (pairs : List (String × α)) (extension key : String) (value : α) :
    Prop where
  member : (key, value) ∈ pairs
  kept : Extension.normalize? key = some extension
  greatest : ∀ other ∈ pairs, Extension.normalize? other.1 = some extension →
    Utf8.encode other.1 ≤ Utf8.encode key

/-- What is left of a table as mappings, and what is lost. -/
structure Resolves (fields : List (String × Document)) (mappings : Dictionary String) : Prop where
  ascending : mappings.Ascending
  exists_iff : ∀ extension, (∃ id, (extension, id) ∈ mappings) ↔
    ∃ field ∈ fields, trim field.1 ≠ "" ∧ trim field.1 ≠ "." ∧
      Extension.normalize? field.1 = some extension
  mem_iff : ∀ extension id, (extension, id) ∈ mappings ↔ ∃ key document text,
    Decides fields extension key document ∧ document.readText = .ok text ∧ trim text = id
  decides_or_lost : ∀ field ∈ fields, trim field.1 = "" ∨ trim field.1 = "." ∨
    ∃ extension key document, Extension.normalize? field.1 = some extension ∧
      Decides fields extension key document ∧
      ((key, document) = field ∨ Utf8.encode field.1 < Utf8.encode key)

section

variable {α : Type} {pairs : List (String × α)} (distinct : (pairs.map (·.1)).Nodup)

include distinct

theorem decides_iff_greatest {extension key : String} {value : α} :
    Decides pairs extension key value ↔
      (Dictionary.ofList pairs).Greatest (Extension.normalize? · = some extension) key value := by
  have found_iff := Dictionary.find?_ofList_eq_some_iff distinct
  constructor
  · intro decides
    constructor
    case found => exact (found_iff key value).mpr decides.member
    case accepted => exact decides.kept
    case greatest =>
      intro other value' found kept
      exact Utf8.encode_le_iff.mp
        (decides.greatest (other, value') ((found_iff other value').mp found) kept)
  · intro greatest
    constructor
    case member => exact (found_iff key value).mp greatest.found
    case kept => exact greatest.accepted
    case greatest =>
      intro ⟨other, value'⟩ member kept
      exact Utf8.encode_le_iff.mpr
        (greatest.greatest other value' ((found_iff other value').mpr member) kept)

theorem exists_decides {pair : String × α} (member : pair ∈ pairs) {extension : String}
    (kept : Extension.normalize? pair.1 = some extension) :
    ∃ key value, Decides pairs extension key value := by
  have ascending := Dictionary.ascending_ofList pairs
  have inDictionary : pair ∈ Dictionary.ofList pairs :=
    (ascending.mem_iff pair.1 pair.2).mpr
      ((Dictionary.find?_ofList_eq_some_iff distinct pair.1 pair.2).mpr member)
  cases found : (Dictionary.ofList pairs).reverse.find?
      fun entry => Extension.normalize? entry.1 == some extension with
  | none =>
      have refused := List.find?_eq_none.mp found pair (List.mem_reverse.mpr inDictionary)
      exact absurd (beq_iff_eq.mpr kept) refused
  | some entry =>
      have greatest := (ascending.find?_reverse_eq_some_iff
        (Extension.normalize? · == some extension)).mp found
      simp only [beq_iff_eq] at greatest
      exact ⟨entry.1, entry.2, (decides_iff_greatest distinct).mpr greatest⟩

/-- Of two pairs for the same extension the one that does not count has the smaller key. -/
theorem Decides.eq_or_lt {extension key : String} {value : α}
    (decides : Decides pairs extension key value) {pair : String × α} (member : pair ∈ pairs)
    (kept : Extension.normalize? pair.1 = some extension) :
    (key, value) = pair ∨ Utf8.encode pair.1 < Utf8.encode key := by
  rw [Utf8.encode_lt_iff]
  cases (Utf8.encode_le_iff.mp (decides.greatest pair member kept)).eq_or_lt with
  | inl same =>
      exact Or.inl (List.inj_on_of_nodup_map distinct decides.member member same.symm)
  | inr less => exact Or.inr less

end

theorem decides_congr {α : Type} {pairs pairs' : List (String × α)}
    (same : ∀ pair, pair ∈ pairs' ↔ pair ∈ pairs) {extension key : String} {value : α} :
    Decides pairs' extension key value ↔ Decides pairs extension key value := by
  constructor
  · intro ⟨member, kept, greatest⟩
    exact ⟨(same _).mp member, kept, fun other inPairs => greatest other ((same other).mpr inPairs)⟩
  · intro ⟨member, kept, greatest⟩
    exact ⟨(same _).mpr member, kept, fun other inPairs => greatest other ((same other).mp inPairs)⟩

section

variable {fields : List (String × Document)} {table : List (String × String)}

theorem mem_of_readFields_iff (read : readFields readText fields = .ok table) (key text : String) :
    (key, text) ∈ table ↔ ∃ document, (key, document) ∈ fields ∧ document.readText = .ok text := by
  induction fields generalizing table with
  | nil =>
      obtain rfl := Except.ok.inj read
      simp
  | cons field rest ih =>
      obtain ⟨first, texts, firstRead, restRead, rfl⟩ := readFields_cons_eq_ok_iff.mp read
      rw [List.mem_cons, ih restRead]
      constructor
      · intro member
        cases member with
        | inl isFirst =>
            obtain ⟨rfl, rfl⟩ := Prod.mk.inj isFirst
            exact ⟨field.2, List.mem_cons_self, firstRead⟩
        | inr later =>
            obtain ⟨document, inRest, textRead⟩ := later
            exact ⟨document, List.mem_cons_of_mem _ inRest, textRead⟩
      · intro ⟨document, member, textRead⟩
        cases List.mem_cons.mp member with
        | inl isFirst =>
            subst isFirst
            exact Or.inl (congrArg _ (Except.ok.inj (textRead.symm.trans firstRead)))
        | inr inRest => exact Or.inr ⟨document, inRest, textRead⟩

theorem decides_of_readFields_iff (read : readFields readText fields = .ok table)
    {extension key text : String} :
    Decides table extension key text ↔
      ∃ document, Decides fields extension key document ∧ document.readText = .ok text := by
  have mem_iff := mem_of_readFields_iff read
  constructor
  · intro ⟨member, kept, greatest⟩
    obtain ⟨document, inFields, textRead⟩ := (mem_iff key text).mp member
    refine ⟨document, ⟨inFields, kept, ?_⟩, textRead⟩
    intro ⟨other, value⟩ otherMember
    obtain ⟨text', otherRead⟩ := exists_readFields_iff.mp ⟨table, read⟩ _ otherMember
    exact greatest (other, text') ((mem_iff other text').mpr ⟨value, otherMember, otherRead⟩)
  · intro ⟨document, ⟨member, kept, greatest⟩, textRead⟩
    refine ⟨(mem_iff key text).mpr ⟨document, member, textRead⟩, kept, ?_⟩
    intro ⟨other, text'⟩ otherMember
    obtain ⟨value, inFields, -⟩ := (mem_iff other text').mp otherMember
    exact greatest (other, value) inFields

theorem mem_mappingsOfTable_iff (distinct : (table.map (·.1)).Nodup) (extension id : String) :
    (extension, id) ∈ mappingsOfTable table ↔
      ∃ key text, Decides table extension key text ∧ trim text = id := by
  have ascending := Dictionary.ascending_ofList table
  have sorted : mappingsOfTable (Dictionary.ofList table) = mappingsOfTable table := by
    rw [mappingsOfTable, ascending.ofList_eq]
    rfl
  have mappings : (mappingsOfTable table).Ascending := Dictionary.ascending_ofList _
  rw [mappings.mem_iff, ← sorted, find?_mappingsOfTable ascending]
  simp only [decides_iff_greatest distinct]

variable (distinct : (fields.map (·.1)).Nodup)

include distinct

theorem mem_readMappings_iff {mappings : Dictionary String}
    (read : (object fields).readMappings = .ok mappings) (extension id : String) :
    (extension, id) ∈ mappings ↔ ∃ key document text,
      Decides fields extension key document ∧ document.readText = .ok text ∧ trim text = id := by
  obtain ⟨table, fieldsRead, rfl⟩ := map_eq_ok_iff.mp read
  rw [← map_fst_of_readFields fieldsRead] at distinct
  rw [mem_mappingsOfTable_iff distinct]
  simp only [decides_of_readFields_iff fieldsRead]
  constructor
  · intro ⟨key, spelled, ⟨document, decides, textRead⟩, same⟩
    exact ⟨key, document, spelled, decides, textRead, same⟩
  · intro ⟨key, document, spelled, decides, textRead, same⟩
    exact ⟨key, spelled, ⟨document, decides, textRead⟩, same⟩

theorem resolves_of_readMappings {mappings : Dictionary String}
    (read : (object fields).readMappings = .ok mappings) : Resolves fields mappings := by
  have mem_iff := mem_readMappings_iff distinct read
  have none_iff := Extension.normalize?_eq_none_iff_trim
  constructor
  case ascending => exact (keptExtensions_of_readMappings read).ascending
  case mem_iff => exact mem_iff
  case exists_iff =>
    intro extension
    constructor
    · intro ⟨id, member⟩
      obtain ⟨key, document, _, decides, -, -⟩ := (mem_iff extension id).mp member
      have notNone : Extension.normalize? key ≠ none := by
        rw [decides.kept]
        exact Option.some_ne_none extension
      rw [Ne, none_iff, not_or] at notNone
      exact ⟨(key, document), decides.member, notNone.1, notNone.2, decides.kept⟩
    · intro ⟨field, member, _, _, kept⟩
      obtain ⟨key, document, decides⟩ := exists_decides distinct member kept
      obtain ⟨table, fieldsRead, -⟩ := map_eq_ok_iff.mp read
      obtain ⟨text, textRead⟩ := exists_readFields_iff.mp ⟨table, fieldsRead⟩ _ decides.member
      exact ⟨trim text, (mem_iff extension _).mpr ⟨key, document, text, decides, textRead, rfl⟩⟩
  case decides_or_lost =>
    intro field member
    cases kept : Extension.normalize? field.1 with
    | none => exact ((none_iff field.1).mp kept).imp_right Or.inl
    | some extension =>
        obtain ⟨key, document, decides⟩ := exists_decides distinct member kept
        exact Or.inr (Or.inr ⟨extension, key, document, rfl, decides,
          decides.eq_or_lt distinct member kept⟩)

end

theorem Resolves.eq_of_mem_iff {fields fields' : List (String × Document)}
    {mappings mappings' : Dictionary String} (resolves : Resolves fields mappings)
    (resolves' : Resolves fields' mappings') (same : ∀ field, field ∈ fields' ↔ field ∈ fields) :
    mappings' = mappings := by
  apply Dictionary.Ascending.ext resolves'.ascending resolves.ascending
  intro extension
  ext id
  rw [← resolves'.ascending.mem_iff, ← resolves.ascending.mem_iff, resolves'.mem_iff,
    resolves.mem_iff]
  simp only [decides_congr same]

theorem extensions_of_readSettings {origin : Origin} {fields : List (String × Document)}
    {settings : Settings} (read : (object fields).readSettings origin = .ok settings)
    {name : String} {document : Document} (member : (name, document) ∈ fields)
    (named : settingName name = "extensions") :
    document.readMappings = .ok settings.extensions := by
  obtain ⟨parts, partsRead, rfl⟩ := readSettings_object_eq_ok_iff.mp read
  obtain ⟨mappings, mappingsRead, isSet⟩ :=
    (isField_extensions origin).get_of_mem member named partsRead
  rw [mappingsRead, SettingsParts.finish, isSet]
  rfl

/-- A table of texts under distinct keys is read, and to the same mappings in any order: an
extension goes to what its key with the greatest bytes has, and nothing else is lost but blank keys.
-/
theorem readMappings_resolves {fields : List (String × Document)}
    (distinct : (fields.map (·.1)).Nodup)
    (texts : ∀ field ∈ fields, ∃ text, field.2.readText = .ok text) :
    ∃ mappings, (object fields).readMappings = .ok mappings ∧ Resolves fields mappings ∧
      (∀ fields', fields'.Perm fields → (object fields').readMappings = .ok mappings) ∧
      ∀ origin settingFields settings name, (name, object fields) ∈ settingFields →
        settingName name = "extensions" →
        (object settingFields).readSettings origin = .ok settings →
        settings.extensions = mappings := by
  have exists_resolves {fields' : List (String × Document)} (perm : fields'.Perm fields) :
      ∃ mappings, (object fields').readMappings = .ok mappings ∧ Resolves fields' mappings := by
    obtain ⟨table, fieldsRead⟩ :=
      exists_readFields_iff.mpr fun field member => texts field (perm.mem_iff.mp member)
    have read : (object fields').readMappings = .ok (mappingsOfTable table) :=
      map_eq_ok_iff.mpr ⟨table, fieldsRead, rfl⟩
    exact ⟨_, read, resolves_of_readMappings ((perm.map _).nodup_iff.mpr distinct) read⟩
  obtain ⟨mappings, read, resolves⟩ := exists_resolves (List.Perm.refl fields)
  refine ⟨mappings, read, resolves, ?_, ?_⟩
  · intro fields' perm
    obtain ⟨mappings', read', resolves'⟩ := exists_resolves perm
    rw [read', resolves.eq_of_mem_iff resolves' fun field => perm.mem_iff]
  · intro origin settingFields settings name member named settingsRead
    have extensionsRead := extensions_of_readSettings settingsRead member named
    exact Except.ok.inj (extensionsRead.symm.trans read)

/-- Two kept forms, of which the first is spelled in three ways, and two blank keys. -/
def collidingTable : List (String × Document) :=
  [("\u00A0h", .text "objc"), ("H", .text " cpp "), (".", .text "x"), ("é", .char 'q'),
    (".h", .text "c"), (" ", .text "y"), ("É", .text "r")]

theorem readMappings_resolves_collidingTable :
    (collidingTable.map (·.1)).Nodup ∧
    (∀ field ∈ collidingTable, ∃ text, field.2.readText = .ok text) ∧
    Resolves collidingTable [(".h", "objc"), (".é", "q")] ∧
    (object collidingTable.reverse).readMappings = .ok [(".h", "objc"), (".é", "q")] ∧
    ∀ settings,
      (object [("extension_map", .object collidingTable)]).readSettings .json = .ok settings →
      settings.extensions = [(".h", "objc"), (".é", "q")] := by
  have distinct : (collidingTable.map (·.1)).Nodup := by decide
  have texts : ∀ field ∈ collidingTable, ∃ text, field.2.readText = .ok text :=
    exists_readFields_iff.mp ⟨_, rfl⟩
  obtain ⟨mappings, read, resolves, ordered, ofSettings⟩ := readMappings_resolves distinct texts
  obtain ⟨_, read', isThat⟩ : ∃ mappings, (object collidingTable).readMappings = .ok mappings ∧
      mappings = [(".h", "objc"), (".é", "q")] := by
    apply exists_of_check
    decide +kernel
  obtain rfl := isThat
  obtain rfl := Except.ok.inj (read.symm.trans read')
  refine ⟨distinct, texts, resolves, ordered _ (List.reverse_perm _), ?_⟩
  intro settings
  exact ofSettings .json _ settings "extension_map" List.mem_cons_self rfl

end LanguageDetection.Document
