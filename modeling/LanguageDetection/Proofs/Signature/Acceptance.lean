import LanguageDetection.Proofs.Signature.Mapping

/-!
Which settings are accepted: well-formed ones are, unless they take the last extension from a
language of the table that has no rules. The first such language is then reported.
-/

namespace LanguageDetection

open LanguageDetection.Extension
open LanguageDetection.Pattern
open LanguageDetection.Text

/-- Declarations of which nothing can be refused but that a language is out of reach. -/
structure SoundDeclarations (declarations : List Declaration) : Prop where
  nonempty : declaredIds declarations ≠ []
  once : repeatedIds declarations = []
  languages : ∀ id ∈ declaredIds declarations,
    languageRejection? id (declaredRules declarations id) = none
  mappings : ∀ mapping ∈ declaredMappings declarations,
    mappingRejection? (declaredIds declarations) mapping = none

section Sound

variable {declarations : List Declaration}

theorem SoundDeclarations.rejection?_eq (sound : SoundDeclarations declarations) :
    rejection? declarations =
      ((declaredIds declarations).find? (isUnreachable declarations)).map .unreachable := by
  have languages := List.findSome?_eq_none_iff.mpr sound.languages
  have mappings := List.findSome?_eq_none_iff.mpr sound.mappings
  simp only [rejection?, if_neg sound.nonempty, sound.once, languages, mappings, List.head?_nil,
    Option.map_none, Option.none_or]

theorem soundDeclarations_of_rejection?_eq_none (accepted : rejection? declarations = none) :
    SoundDeclarations declarations := by
  unfold rejection? at accepted
  simp only at accepted
  split at accepted
  · contradiction
  · rename_i nonempty
    simp only [Option.or_eq_none_iff, Option.map_eq_none_iff, List.head?_eq_none_iff,
      List.findSome?_eq_none_iff] at accepted
    obtain ⟨once, languages, mappings, -⟩ := accepted
    exact ⟨nonempty, once, languages, mappings⟩

theorem languageRejection?_eq_none_iff {id : String} {rules : List (String × UInt32)} :
    languageRejection? id rules = none ↔ id ≠ "" ∧ ∀ rule ∈ rules, ruleRejection? id rule = none := by
  unfold languageRejection?
  split
  · rename_i empty
    simp [empty]
  · rename_i named
    simp [named, List.findSome?_eq_none_iff]

theorem ruleRejection?_eq_none_iff {id : String} {rule : String × UInt32} :
    ruleRejection? id rule = none ↔
      rule.2 ≠ 0 ∧ ∃ searcher, Searcher.ofPattern rule.1 = .ok searcher := by
  unfold ruleRejection?
  split
  · rename_i zero
    simp [zero]
  · rename_i positive
    rw [Option.map_eq_none_iff, failure?_eq_none_iff]
    simp [positive]

theorem mappingRejection?_eq_none_iff {ids : List String} {mapping : String × String} :
    mappingRejection? ids mapping = none ↔ isMalformed mapping.1 = false ∧ mapping.2 ∈ ids := by
  unfold mappingRejection?
  split
  · rename_i malformed
    simp [malformed]
  · rename_i wellFormed
    obtain ⟨extension, kept⟩ :=
      exists_normalize?_of_isMalformed_eq_false (Bool.eq_false_of_not_eq_true wellFormed)
    simp [wellFormed, kept]

theorem repeatedIds_append_of_again?_eq_none {more : List Declaration}
    (never : ∀ d ∈ more, ∀ known, d.again? known = none) :
    repeatedIds (declarations ++ more) = repeatedIds declarations := by
  induction more using List.reverseRecOn with
  | nil => rw [List.append_nil]
  | append_singleton more d ih =>
      have earlier := ih fun other member => never other (List.mem_append_left _ member)
      rw [← List.append_assoc, repeatedIds_concat, earlier,
        never d (List.mem_append_right _ List.mem_cons_self), Option.toList_none, List.append_nil]

end Sound

theorem BuiltIn.soundDeclarations (profile : Profile) :
    SoundDeclarations (ofProfile profile).declarations := by
  obtain ⟨registry, built⟩ := Registry.exists_builtIn profile
  have describes := Draft.describes_ofSteps (.builtIn profile) []
  rw [Start.declarations, List.append_nil, Start.steps, flatMap_steps] at describes
  have accepted : failure? (Draft.ofSteps (.builtIn profile) []).build = none := by
    refine failure?_eq_none_iff.mpr ⟨registry, ?_⟩
    rw [← built]
    cases profile <;> rfl
  rw [describes.failure?_build] at accepted
  exact soundDeclarations_of_rejection?_eq_none accepted

namespace Settings

def table (settings : Settings) : BuiltIn := .ofProfile settings.profile

/-- All mappings of the table and of the settings, those that win last. -/
def layeredMappings (settings : Settings) : List (String × String) :=
  settings.table.extensions ++ settings.listedMappings ++ settings.extensions

/-- Settings with which nothing is wrong by themselves. -/
structure WellFormed (settings : Settings) : Prop where
  named : ∀ custom ∈ settings.languages, trim custom.name ≠ ""
  ruled : ∀ custom ∈ settings.languages, custom.rules ≠ []
  weighted : ∀ custom ∈ settings.languages, ∀ rule ∈ custom.rules, rule.weight ≠ 0
  compiles : ∀ custom ∈ settings.languages, ∀ rule ∈ custom.rules,
    ∃ searcher, Searcher.ofPattern rule.pattern = .ok searcher
  listed : ∀ custom ∈ settings.languages, ∀ raw ∈ custom.extensions, isMalformed raw = false
  mapped : ∀ mapping ∈ settings.extensions, isMalformed mapping.1 = false
  declared : ∀ mapping ∈ settings.extensions, mapping.2 ∈ settings.table.ids ∨
    ∃ custom ∈ settings.languages, trim custom.name = mapping.2

/-- A language of the table that has no rules, is given none, and has no extension in the end. -/
structure Strands (settings : Settings) (id : String) : Prop where
  builtIn : id ∈ settings.table.ids
  noRules : settings.table.rulesOf id = []
  unnamed : ∀ custom ∈ settings.languages, trim custom.name ≠ id
  noExtension : ∀ spelled, lastOwner? settings.layeredMappings spelled ≠ some id

def layeredDeclarations (settings : Settings) : List Declaration :=
  settings.table.declarations ++ settings.declarations

variable (settings : Settings)

theorem declaredIds_layeredDeclarations :
    declaredIds settings.layeredDeclarations =
      settings.table.ids ++ settings.newIds settings.table := by
  rw [layeredDeclarations, declaredIds_append, table, BuiltIn.declaredIds_declarations,
    filterMap_id?_declarations, eraseDups_filter_declaredIds, newIds]

theorem declaredRules_layeredDeclarations (id : String) :
    declaredRules settings.layeredDeclarations id =
      settings.table.rulesOf id ++ settings.rulesOf id := by
  rw [layeredDeclarations, declaredRules_append, BuiltIn.declaredRules_declarations,
    declaredRules_declarations]

theorem declaredMappings_layeredDeclarations :
    declaredMappings settings.layeredDeclarations = settings.layeredMappings := by
  rw [layeredDeclarations, declaredMappings_append, BuiltIn.declaredMappings_declarations,
    declaredMappings_declarations, layeredMappings, List.append_assoc]

theorem describes_draftOfSettings :
    (Registry.draftOfSettings settings).Describes settings.layeredDeclarations := by
  have describes := Draft.describes_ofSteps (.builtIn settings.profile) [.settings settings]
  rw [Start.declarations_settings] at describes
  exact describes

theorem failure?_ofSettings :
    failure? (Registry.ofSettings settings) = rejection? settings.layeredDeclarations := by
  rw [Registry.ofSettings_eq]
  exact settings.describes_draftOfSettings.failure?_build

theorem mem_newIds_iff {id : String} {table : BuiltIn} :
    id ∈ settings.newIds table ↔
      id ∉ table.ids ∧ ∃ custom ∈ settings.languages, trim custom.name = id := by
  rw [newIds, List.mem_eraseDups, List.mem_filter, List.mem_map, decide_eq_true_eq, and_comm]

theorem mem_declaredIds_layeredDeclarations {id : String} :
    id ∈ declaredIds settings.layeredDeclarations ↔
      id ∈ settings.table.ids ∨ ∃ custom ∈ settings.languages, trim custom.name = id := by
  rw [declaredIds_layeredDeclarations, List.mem_append, mem_newIds_iff]
  by_cases builtIn : id ∈ settings.table.ids
  · simp [builtIn]
  · simp [builtIn]

theorem mem_rulesOf_iff {id : String} {rule : String × UInt32} :
    rule ∈ settings.rulesOf id ↔ ∃ custom ∈ settings.languages, trim custom.name = id ∧
      ∃ customRule ∈ custom.rules, (customRule.pattern, customRule.weight) = rule := by
  simp only [rulesOf, List.mem_flatMap, CustomLanguage.rulesOf]
  refine exists_congr fun custom => and_congr_right fun _ => ?_
  by_cases named : trim custom.name = id
  · simp [named]
  · simp [named]

theorem mem_listedMappings_iff {mapping : String × String} :
    mapping ∈ settings.listedMappings ↔ ∃ custom ∈ settings.languages,
      mapping.1 ∈ custom.extensions ∧ mapping.2 = trim custom.name := by
  simp only [listedMappings, List.mem_flatMap, CustomLanguage.mappings, List.mem_map]
  refine exists_congr fun custom => and_congr_right fun _ => ?_
  constructor
  · rintro ⟨raw, member, rfl⟩
    exact ⟨member, rfl⟩
  · rintro ⟨member, same⟩
    exact ⟨mapping.1, member, by rw [← same]⟩

theorem again?_declarations :
    ∀ d ∈ settings.declarations, ∀ known, d.again? known = none := by
  intro d member known
  simp only [declarations, Step.declarations, List.mem_append, List.mem_flatMap, List.mem_map,
    CustomLanguage.declarations, List.mem_cons] at member
  rcases member with ⟨custom, -, (rfl | ⟨rule, -, rfl⟩) | ⟨raw, -, rfl⟩⟩ | ⟨mapping, -, rfl⟩
  all_goals rfl

theorem isDeclared_of_mem_table {settings : Settings} {mapping : String × String}
    (builtIn : mapping ∈ settings.table.extensions) :
    isMalformed mapping.1 = false ∧ mapping.2 ∈ settings.table.ids := by
  have sound := BuiltIn.soundDeclarations settings.profile
  have accepted := sound.mappings mapping
    (by rw [BuiltIn.declaredMappings_declarations]; exact builtIn)
  rw [mappingRejection?_eq_none_iff, BuiltIn.declaredIds_declarations] at accepted
  exact accepted

section WellFormed

variable {settings : Settings} (wellFormed : settings.WellFormed)

include wellFormed

theorem languageRejection?_of_wellFormed {id : String}
    (declared : id ∈ declaredIds settings.layeredDeclarations) :
    languageRejection? id (declaredRules settings.layeredDeclarations id) = none := by
  have table := BuiltIn.soundDeclarations settings.profile
  rw [languageRejection?_eq_none_iff, declaredRules_layeredDeclarations]
  constructor
  · rcases settings.mem_declaredIds_layeredDeclarations.mp declared with builtIn | ⟨custom, member, rfl⟩
    · rw [Settings.table, ← BuiltIn.declaredIds_declarations] at builtIn
      exact (languageRejection?_eq_none_iff.mp (table.languages id builtIn)).1
    · exact wellFormed.named custom member
  · intro rule member
    rcases List.mem_append.mp member with ofTable | ofSettings
    · rw [Settings.table, ← BuiltIn.declaredRules_declarations] at ofTable
      have builtIn := mem_declaredIds_of_mem_declaredRules ofTable
      exact (languageRejection?_eq_none_iff.mp (table.languages id builtIn)).2 rule ofTable
    · obtain ⟨custom, inSettings, -, customRule, inRules, rfl⟩ :=
        settings.mem_rulesOf_iff.mp ofSettings
      exact ruleRejection?_eq_none_iff.mpr
        ⟨wellFormed.weighted custom inSettings customRule inRules,
          wellFormed.compiles custom inSettings customRule inRules⟩

theorem isMalformed_of_mem_layeredMappings {mapping : String × String}
    (member : mapping ∈ settings.layeredMappings) : isMalformed mapping.1 = false := by
  rcases List.mem_append.mp member with lower | ofTable
  · rcases List.mem_append.mp lower with builtIn | ofCustom
    · exact (isDeclared_of_mem_table builtIn).1
    · obtain ⟨custom, inSettings, listed, -⟩ := settings.mem_listedMappings_iff.mp ofCustom
      exact wellFormed.listed custom inSettings mapping.1 listed
  · exact wellFormed.mapped mapping ofTable

theorem mem_declaredIds_of_mem_layeredMappings {mapping : String × String}
    (member : mapping ∈ settings.layeredMappings) :
    mapping.2 ∈ declaredIds settings.layeredDeclarations := by
  rw [mem_declaredIds_layeredDeclarations]
  rcases List.mem_append.mp member with lower | ofTable
  · rcases List.mem_append.mp lower with builtIn | ofCustom
    · exact Or.inl (isDeclared_of_mem_table builtIn).2
    · obtain ⟨custom, inSettings, -, named⟩ := settings.mem_listedMappings_iff.mp ofCustom
      exact Or.inr ⟨custom, inSettings, named.symm⟩
  · exact wellFormed.declared mapping ofTable

theorem soundDeclarations_of_wellFormed : SoundDeclarations settings.layeredDeclarations := by
  have table := BuiltIn.soundDeclarations settings.profile
  constructor
  case nonempty =>
    rw [declaredIds_layeredDeclarations, Ne, List.append_eq_nil_iff, Settings.table,
      ← BuiltIn.declaredIds_declarations]
    exact fun empty => table.nonempty empty.1
  case once =>
    rw [layeredDeclarations, repeatedIds_append_of_again?_eq_none settings.again?_declarations]
    exact table.once
  case languages =>
    intro id declared
    exact languageRejection?_of_wellFormed wellFormed declared
  case mappings =>
    rw [declaredMappings_layeredDeclarations]
    intro mapping member
    exact mappingRejection?_eq_none_iff.mpr ⟨isMalformed_of_mem_layeredMappings wellFormed member,
      mem_declaredIds_of_mem_layeredMappings wellFormed member⟩

/-- Custom languages have rules, so a language without rules has no custom language of its name. -/
theorem rulesOf_eq_nil_iff (id : String) :
    settings.rulesOf id = [] ↔ ∀ custom ∈ settings.languages, trim custom.name ≠ id := by
  rw [List.eq_nil_iff_forall_not_mem]
  constructor
  · intro noRules custom member named
    obtain ⟨rule, inRules⟩ := List.exists_mem_of_ne_nil _ (wellFormed.ruled custom member)
    exact noRules _ (settings.mem_rulesOf_iff.mpr ⟨custom, member, named, rule, inRules, rfl⟩)
  · intro unnamed rule member
    obtain ⟨custom, inSettings, named, -⟩ := settings.mem_rulesOf_iff.mp member
    exact unnamed custom inSettings named

theorem mem_owners_layeredDeclarations_iff (id : String) :
    id ∈ owners settings.layeredDeclarations ↔
      ∃ spelled, lastOwner? settings.layeredMappings spelled = some id := by
  rw [mem_owners_iff]
  simp only [ownerOf?, declaredMappings_layeredDeclarations]
  constructor
  · rintro ⟨extension, owned⟩
    obtain ⟨mapping, found, rfl⟩ := Option.map_eq_some_iff.mp owned
    have kept : normalize? mapping.1 = some extension := by simpa using List.find?_some found
    exact ⟨mapping.1, by rw [lastOwner?, kept, owned]⟩
  · rintro ⟨spelled, owned⟩
    obtain ⟨mapping, found, rfl⟩ := Option.map_eq_some_iff.mp owned
    have same : normalize? mapping.1 = normalize? spelled := by simpa using List.find?_some found
    have member := List.mem_reverse.mp (List.mem_of_find?_eq_some found)
    obtain ⟨extension, kept⟩ := exists_normalize?_of_isMalformed_eq_false
      (isMalformed_of_mem_layeredMappings wellFormed member)
    refine ⟨extension, ?_⟩
    rw [← kept, same]
    exact owned

theorem isUnreachable_iff {id : String} (builtIn : id ∈ settings.table.ids) :
    isUnreachable settings.layeredDeclarations id = true ↔ settings.Strands id := by
  rw [isUnreachable, Bool.and_eq_true, List.isEmpty_iff, declaredRules_layeredDeclarations,
    List.append_eq_nil_iff, rulesOf_eq_nil_iff wellFormed, Bool.not_eq_true',
    ← Bool.not_eq_true, List.contains_iff_mem, mem_owners_layeredDeclarations_iff wellFormed,
    not_exists]
  constructor
  · rintro ⟨⟨noRules, unnamed⟩, noExtension⟩
    exact ⟨builtIn, noRules, unnamed, noExtension⟩
  · rintro ⟨-, noRules, unnamed, noExtension⟩
    exact ⟨⟨noRules, unnamed⟩, noExtension⟩

theorem isUnreachable_of_mem_newIds {id : String} (isNew : id ∈ settings.newIds settings.table) :
    isUnreachable settings.layeredDeclarations id = false := by
  obtain ⟨-, custom, member, named⟩ := settings.mem_newIds_iff.mp isNew
  have hasRules : settings.rulesOf id ≠ [] := fun noRules =>
    (rulesOf_eq_nil_iff wellFormed id).mp noRules custom member named
  rw [isUnreachable, declaredRules_layeredDeclarations, List.isEmpty_eq_false_iff.mpr]
  · rfl
  · exact fun empty => hasRules (List.append_eq_nil_iff.mp empty).2

theorem failure?_ofSettings_of_wellFormed :
    failure? (Registry.ofSettings settings) =
      (settings.table.ids.find? (isUnreachable settings.layeredDeclarations)).map .unreachable := by
  have reachable : (settings.newIds settings.table).find?
      (isUnreachable settings.layeredDeclarations) = none := by
    rw [List.find?_eq_none]
    intro id isNew
    rw [isUnreachable_of_mem_newIds wellFormed isNew]
    exact Bool.false_ne_true
  rw [failure?_ofSettings, (soundDeclarations_of_wellFormed wellFormed).rejection?_eq,
    declaredIds_layeredDeclarations, List.find?_append, reachable, Option.or_none]

end WellFormed

theorem mem_of_strands {settings : Settings} {id : String} (strands : settings.Strands id) :
    settings.profile = .standard ∧ id ∈ ["shell", "powershell", "perl", "r", "matlab", "c"] := by
  obtain ⟨builtIn, noRules, -, -⟩ := strands
  rw [table] at builtIn noRules
  revert id
  cases settings.profile <;> decide +kernel

theorem exists_extension_of_noRules {settings : Settings} {id : String}
    (builtIn : id ∈ settings.table.ids) (noRules : settings.table.rulesOf id = []) :
    ∃ mapping ∈ settings.table.extensions, mapping.2 = id ∧
      lastOwner? settings.table.extensions mapping.1 = some id := by
  rw [table] at *
  revert id
  cases settings.profile <;> decide +kernel

theorem not_strands_of_kept {settings : Settings}
    (kept : ∀ mapping ∈ settings.table.extensions, settings.table.rulesOf mapping.2 = [] →
      ∀ owner, lastOwner? (settings.listedMappings ++ settings.extensions) mapping.1 = some owner →
        owner = mapping.2) (id : String) : ¬ settings.Strands id := by
  intro strands
  obtain ⟨mapping, inTable, rfl, builtIn⟩ :=
    exists_extension_of_noRules strands.builtIn strands.noRules
  apply strands.noExtension mapping.1
  rw [layeredMappings, List.append_assoc, lastOwner?_append, builtIn]
  cases above : lastOwner? (settings.listedMappings ++ settings.extensions) mapping.1 with
  | none => rfl
  | some owner => rw [kept mapping inTable strands.noRules owner above, Option.some_or]

end Settings

namespace Registry

/-- Well-formed settings are accepted exactly if they leave no language of the table without rules
and extensions, and nothing but the first such language is ever reported. Only a few languages can
be left so, and none is if their extensions stay with them. -/
theorem ofSettings_wellFormed {settings : Settings} (wellFormed : settings.WellFormed) :
    ((∃ registry, ofSettings settings = .ok registry) ↔ ∀ id, ¬ settings.Strands id) ∧
    (∀ error, ofSettings settings = .error error ↔
      ∃ before id after, settings.table.ids = before ++ id :: after ∧
        (∀ other ∈ before, ¬ settings.Strands other) ∧ settings.Strands id ∧
        error = .unreachable id) ∧
    (∀ id, settings.Strands id → settings.profile = .standard ∧
      id ∈ ["shell", "powershell", "perl", "r", "matlab", "c"]) ∧
    ((∀ mapping ∈ settings.table.extensions, settings.table.rulesOf mapping.2 = [] →
        ∀ owner,
          lastOwner? (settings.listedMappings ++ settings.extensions) mapping.1 = some owner →
            owner = mapping.2) →
      ∃ registry, ofSettings settings = .ok registry) := by
  have failure := Settings.failure?_ofSettings_of_wellFormed wellFormed
  have accepted_iff :
      (∃ registry, ofSettings settings = .ok registry) ↔ ∀ id, ¬ settings.Strands id := by
    rw [← failure?_eq_none_iff, failure, Option.map_eq_none_iff, List.find?_eq_none]
    constructor
    · intro reachable id strands
      exact reachable id strands.builtIn
        ((Settings.isUnreachable_iff wellFormed strands.builtIn).mpr strands)
    · intro none id builtIn unreachable
      exact none id ((Settings.isUnreachable_iff wellFormed builtIn).mp unreachable)
  refine ⟨accepted_iff, ?_, fun id => Settings.mem_of_strands, fun kept => ?_⟩
  · intro error
    rw [← failure?_eq_some_iff, failure, Option.map_eq_some_iff]
    constructor
    · rintro ⟨id, found, rfl⟩
      obtain ⟨unreachable, before, after, split, reachable⟩ := List.find?_eq_some_iff_append.mp found
      have builtIn : id ∈ settings.table.ids := by simp [split]
      refine ⟨before, id, after, split, ?_, ?_, rfl⟩
      · intro other earlier strands
        have unreachable' :=
          (Settings.isUnreachable_iff wellFormed strands.builtIn).mpr strands
        simpa [unreachable'] using reachable other earlier
      · exact (Settings.isUnreachable_iff wellFormed builtIn).mp unreachable
    · rintro ⟨before, id, after, split, none, strands, rfl⟩
      refine ⟨id, List.find?_eq_some_iff_append.mpr ⟨?_, before, after, split, ?_⟩, rfl⟩
      · exact (Settings.isUnreachable_iff wellFormed strands.builtIn).mpr strands
      · intro other earlier
        have builtIn : other ∈ settings.table.ids := by simp [split, earlier]
        rw [Bool.not_eq_true', ← Bool.not_eq_true,
          Settings.isUnreachable_iff wellFormed builtIn]
        exact none other earlier
  · exact accepted_iff.mpr (Settings.not_strands_of_kept kept)

/-- The extension of a language without rules goes to another language, and the language is given
one of its own. -/
def exchangedExtensions : Settings where
  extensions := [(".c", "cpp"), (".h", "c")]
  languages := [⟨"zig ", [⟨"@import", 2⟩], [".zig"]⟩]

theorem exchangedExtensions_wellFormed : exchangedExtensions.WellFormed := by
  constructor
  case compiles =>
    simp only [← failure?_eq_none_iff]
    decide +kernel
  all_goals decide +kernel

theorem ofSettings_exchangedExtensions : exchangedExtensions.WellFormed ∧
    ∃ registry, ofSettings exchangedExtensions = .ok registry := by
  obtain ⟨accepted_iff, -, ruleless, -⟩ := ofSettings_wellFormed exchangedExtensions_wellFormed
  refine ⟨exchangedExtensions_wellFormed, accepted_iff.mpr ?_⟩
  intro id strands
  have keepsOne : ∀ id ∈ ["shell", "powershell", "perl", "r", "matlab", "c"],
      ∃ spelled ∈ ["sh", "ps1", "pl", "r", "m", "h"],
        lastOwner? exchangedExtensions.layeredMappings spelled = some id := by
    decide +kernel
  obtain ⟨spelled, -, owned⟩ := keepsOne id (ruleless id strands).2
  exact strands.noExtension spelled owned

def takenExtension : Settings where
  extensions := [(".c", "cpp")]

/-- A language of the table that loses its extension is reported, though the settings say nothing
of it. -/
theorem ofSettings_takenExtension :
    takenExtension.WellFormed ∧ ofSettings takenExtension = .error (.unreachable "c") := by
  have wellFormed : takenExtension.WellFormed := by
    constructor
    case compiles => exact fun _ member => nomatch member
    all_goals decide +kernel
  refine ⟨wellFormed, ?_⟩
  rw [← failure?_eq_some_iff, Settings.failure?_ofSettings_of_wellFormed wellFormed]
  decide +kernel

end Registry

end LanguageDetection
