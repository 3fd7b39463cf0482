import LanguageDetection.Proofs.Signature.BuiltIn
import LanguageDetection.Proofs.Signature.Rejection

/-!
Settings laid over a built-in table: the registry that settings describe is the table with the
custom languages after it, and with more rules and extensions for the languages it has.
-/

namespace LanguageDetection

open LanguageDetection.Pattern
open LanguageDetection.Text

namespace CustomLanguage

variable (custom : CustomLanguage)

def rulesOf (id : String) : List (String × UInt32) :=
  if trim custom.name = id then custom.rules.map fun rule => (rule.pattern, rule.weight) else []

def mappings : List (String × String) :=
  custom.extensions.map fun raw => (raw, trim custom.name)

theorem filterMap_id?_declarations :
    custom.declarations.filterMap Declaration.id? =
      trim custom.name :: custom.rules.map fun _ => trim custom.name := by
  simp [declarations, List.filterMap_map, Function.comp_def, Declaration.id?]

theorem declaredRules_declarations (id : String) :
    declaredRules custom.declarations id = custom.rulesOf id := by
  by_cases named : trim custom.name = id
  · have noRules : (custom.extensions.flatMap fun _ => ([] : List (String × UInt32))) = [] :=
      List.flatMap_eq_nil_iff.mpr fun _ _ => rfl
    simp only [declaredRules, declarations, rulesOf, List.flatMap_append, List.flatMap_cons,
      List.flatMap_map, Declaration.rulesFor, named, if_true, noRules, List.nil_append,
      List.append_nil]
    exact List.map_eq_flatMap.symm
  · simp [declaredRules, declarations, rulesOf, List.flatMap_map, Declaration.rulesFor, named]

theorem declaredMappings_declarations :
    declaredMappings custom.declarations = custom.mappings := by
  simp [declaredMappings, declarations, mappings, List.filterMap_cons, List.filterMap_map,
    Function.comp_def, Declaration.mapping?]

end CustomLanguage

namespace Settings

variable (settings : Settings)

/-- The names of custom languages, those of a table left out, each where it first occurs. -/
def newIds (table : BuiltIn) : List String :=
  ((settings.languages.map fun custom => trim custom.name).filter (· ∉ table.ids)).eraseDups

def rulesOf (id : String) : List (String × UInt32) :=
  settings.languages.flatMap (·.rulesOf id)

def listedMappings : List (String × String) :=
  settings.languages.flatMap CustomLanguage.mappings

def declarations : List Declaration :=
  (Step.settings settings).declarations

/-- Rules name their language again, which makes no difference to where it first occurs. -/
theorem eraseDups_filter_declaredIds (customs : List CustomLanguage) (p : String → Bool) :
    (((customs.flatMap CustomLanguage.declarations).filterMap Declaration.id?).filter p).eraseDups =
      ((customs.map fun custom => trim custom.name).filter p).eraseDups := by
  induction customs generalizing p with
  | nil => rfl
  | cons custom rest ih =>
      rw [List.flatMap_cons, List.filterMap_append, CustomLanguage.filterMap_id?_declarations,
        List.map_cons]
      by_cases kept : p (trim custom.name) = true
      · -- What is left of the rest is what the filter keeps and has another name.
        have again : (custom.rules.map fun _ => trim custom.name).filter
            (fun id => (!id == trim custom.name) && p id) = [] := by
          simp
        rw [List.cons_append, List.filter_cons_of_pos kept, List.filter_cons_of_pos kept,
          List.eraseDups_cons, List.eraseDups_cons, List.filter_filter, List.filter_filter,
          List.filter_append, again, List.nil_append, ih]
      · have again : (custom.rules.map fun _ => trim custom.name).filter p = [] := by
          simp [kept]
        rw [List.cons_append, List.filter_cons_of_neg kept, List.filter_cons_of_neg kept,
          List.filter_append, again, List.nil_append, ih]

theorem filterMap_id?_declarations :
    settings.declarations.filterMap Declaration.id? =
      (settings.languages.flatMap CustomLanguage.declarations).filterMap Declaration.id? := by
  simp [declarations, Step.declarations, List.filterMap_map, Function.comp_def, Declaration.id?]

theorem declaredRules_declarations (id : String) :
    declaredRules settings.declarations id = settings.rulesOf id := by
  have listed : settings.rulesOf id =
      settings.languages.flatMap fun custom => declaredRules custom.declarations id :=
    congrArg (List.flatMap · settings.languages)
      (funext fun custom => (custom.declaredRules_declarations id).symm)
  rw [listed]
  simp [declaredRules, declarations, Step.declarations, List.flatMap_map, List.flatMap_assoc,
    Declaration.rulesFor]

theorem declaredMappings_declarations :
    declaredMappings settings.declarations = settings.listedMappings ++ settings.extensions := by
  have listed : settings.listedMappings =
      settings.languages.flatMap fun custom => declaredMappings custom.declarations :=
    congrArg (List.flatMap · settings.languages)
      (funext fun custom => custom.declaredMappings_declarations.symm)
  rw [listed]
  simp [declaredMappings, declarations, Step.declarations, List.filterMap_flatMap,
    List.filterMap_map, Function.comp_def, Declaration.mapping?]

end Settings

theorem Start.declarations_settings (profile : Profile) (settings : Settings) :
    (Start.builtIn profile).declarations [.settings settings] =
      (BuiltIn.ofProfile profile).declarations ++ settings.declarations := by
  rw [Start.declarations, List.flatMap_append, List.flatMap_singleton, Start.steps,
    BuiltIn.flatMap_steps]
  rfl

theorem declaredIds_append (declarations more : List Declaration) :
    declaredIds (declarations ++ more) = declaredIds declarations ++
      ((more.filterMap Declaration.id?).filter (· ∉ declaredIds declarations)).eraseDups := by
  have unknown (id : String) : id ∉ declaredIds declarations ↔
      id ∉ declarations.filterMap Declaration.id? := by
    rw [declaredIds, List.mem_eraseDups]
  simp only [unknown]
  rw [declaredIds, List.filterMap_append, List.eraseDups_append, declaredIds, List.removeAll]
  simp only [List.elem_eq_mem, decide_not]

theorem declaredRules_append (declarations more : List Declaration) (id : String) :
    declaredRules (declarations ++ more) id =
      declaredRules declarations id ++ declaredRules more id :=
  List.flatMap_append

theorem declaredMappings_append (declarations more : List Declaration) :
    declaredMappings (declarations ++ more) =
      declaredMappings declarations ++ declaredMappings more :=
  List.filterMap_append

def keptMappings (mappings : List (String × String)) : List (String × String) :=
  mappings.filterMap fun mapping =>
    (Extension.normalize? mapping.1).map fun extension => (extension, mapping.2)

theorem keptMappings_eq_of_buildsMapping {ids : List String}
    {mappings pairs : List (String × String)}
    (built : List.Forall₂ (Draft.BuildsMapping ids) mappings pairs) :
    keptMappings mappings = pairs := by
  induction built with
  | nil => rfl
  | cons first _ ih =>
      rw [keptMappings, List.filterMap_cons, first.kept, ← first.language_eq]
      exact congrArg _ ih

theorem eq_of_map_eq {α β : Type} {f : α → β} {xs ys : List α} (same : xs.map f = ys.map f)
    (injective : ∀ x ∈ xs, ∀ y ∈ ys, f x = f y → x = y) : xs = ys := by
  induction xs generalizing ys with
  | nil => exact (List.map_eq_nil_iff.mp same.symm).symm
  | cons x rest ih =>
      obtain ⟨y, rest', rfl, first, others⟩ := List.map_eq_cons_iff.mp same.symm
      rw [injective x List.mem_cons_self y List.mem_cons_self first.symm]
      refine congrArg _ (ih others.symm ?_)
      intro a inRest b inRest'
      exact injective a (List.mem_cons_of_mem _ inRest) b (List.mem_cons_of_mem _ inRest')

theorem Rule.eq_of_compiled {rule other : Rule}
    (compiled : Searcher.ofPattern rule.pattern = .ok rule.searcher)
    (otherCompiled : Searcher.ofPattern other.pattern = .ok other.searcher)
    (same : (rule.pattern, rule.weight) = (other.pattern, other.weight)) : rule = other := by
  obtain ⟨samePattern, sameWeight⟩ := Prod.mk.inj same
  have sameSearcher : rule.searcher = other.searcher := by
    rw [samePattern, otherCompiled] at compiled
    exact (Except.ok.inj compiled).symm
  cases rule
  cases other
  exact (Rule.mk.injEq ..).mpr ⟨samePattern, sameWeight, sameSearcher⟩

theorem Language.eq_of_compiled {language other : Language} (sameId : language.id = other.id)
    (sameRules : language.rules.map (fun rule => (rule.pattern, rule.weight)) =
      other.rules.map (fun rule => (rule.pattern, rule.weight)))
    (compiled : ∀ rule ∈ language.rules, Searcher.ofPattern rule.pattern = .ok rule.searcher)
    (otherCompiled : ∀ rule ∈ other.rules, Searcher.ofPattern rule.pattern = .ok rule.searcher) :
    language = other := by
  have rules : language.rules = other.rules := by
    refine eq_of_map_eq sameRules ?_
    intro rule inRules rule' inRules' same
    exact Rule.eq_of_compiled (compiled rule inRules) (otherCompiled rule' inRules') same
  cases language
  cases other
  exact congrArg₂ Language.mk sameId rules

theorem Registry.eq_of_compiled {registry other : Registry} (sameIds : registry.ids = other.ids)
    (sameRules : ∀ language ∈ registry.languages, ∀ language' ∈ other.languages,
      language.id = language'.id →
        language.rules.map (fun rule => (rule.pattern, rule.weight)) =
          language'.rules.map (fun rule => (rule.pattern, rule.weight)))
    (compiled : ∀ language ∈ registry.languages, ∀ rule ∈ language.rules,
      Searcher.ofPattern rule.pattern = .ok rule.searcher)
    (otherCompiled : ∀ language ∈ other.languages, ∀ rule ∈ language.rules,
      Searcher.ofPattern rule.pattern = .ok rule.searcher)
    (indexed : registry.index = places registry.languages)
    (otherIndexed : other.index = places other.languages)
    (sameExtensions : registry.extensions = other.extensions) : registry = other := by
  have languages : registry.languages = other.languages := by
    refine eq_of_map_eq sameIds ?_
    intro language member language' member' sameId
    exact Language.eq_of_compiled sameId (sameRules language member language' member' sameId)
      (compiled language member) (otherCompiled language' member')
  have index : registry.index = other.index := by
    rw [indexed, otherIndexed, languages]
  cases registry
  cases other
  exact (Registry.mk.injEq ..).mpr ⟨languages, index, sameExtensions⟩

theorem Draft.Builds.extensions_eq {draft : Draft} {registry : Registry}
    (builds : draft.Builds registry) :
    registry.extensions = .ofList (keptMappings draft.extensions) := by
  obtain ⟨pairs, built, equal⟩ := builds.extensions
  rw [equal, keptMappings_eq_of_buildsMapping built]

namespace Registry

/-- A registry that is the table with the settings over it. -/
structure Layers (registry : Registry) (table : BuiltIn) (settings : Settings) : Prop where
  ids : registry.ids = table.ids ++ settings.newIds table
  rules : ∀ language ∈ registry.languages,
    language.rules.map (fun rule => (rule.pattern, rule.weight)) =
      table.rulesOf language.id ++ settings.rulesOf language.id
  compiled : ∀ language ∈ registry.languages, ∀ rule ∈ language.rules,
    Searcher.ofPattern rule.pattern = .ok rule.searcher
  index : registry.index = places registry.languages
  extensions : registry.extensions =
    .ofList (keptMappings (table.extensions ++ settings.listedMappings ++ settings.extensions))

theorem layers_of_builds {settings : Settings} {registry : Registry}
    (builds : (draftOfSettings settings).Builds registry) :
    registry.Layers (BuiltIn.ofProfile settings.profile) settings := by
  have describes := Draft.describes_ofSteps (.builtIn settings.profile) [.settings settings]
  have reflects := builds.reflects describes
  rw [Start.declarations_settings] at describes reflects
  constructor
  case ids =>
    rw [reflects.ids, declaredIds_append, BuiltIn.declaredIds_declarations,
      Settings.filterMap_id?_declarations, Settings.eraseDups_filter_declaredIds, Settings.newIds]
  case rules =>
    intro language member
    rw [reflects.rules language member, declaredRules_append, BuiltIn.declaredRules_declarations,
      Settings.declaredRules_declarations]
  case compiled => exact reflects.compiled
  case index => exact builds.index
  case extensions =>
    have mappings : (draftOfSettings settings).extensions = _ := describes.extensions
    rw [builds.extensions_eq, mappings, declaredMappings_append,
      BuiltIn.declaredMappings_declarations, Settings.declaredMappings_declarations,
      List.append_assoc]

theorem Layers.unique {registry other : Registry} {table : BuiltIn} {settings : Settings}
    (layers : registry.Layers table settings) (otherLayers : other.Layers table settings) :
    registry = other := by
  refine eq_of_compiled (layers.ids.trans otherLayers.ids.symm) ?_ layers.compiled
    otherLayers.compiled layers.index otherLayers.index
    (layers.extensions.trans otherLayers.extensions.symm)
  intro language member language' member' sameId
  rw [layers.rules language member, otherLayers.rules language' member', sameId]

theorem draftOfSettings_of_nil {settings : Settings} (noLanguages : settings.languages = [])
    (noExtensions : settings.extensions = []) :
    draftOfSettings settings = (BuiltIn.ofProfile settings.profile).draft := by
  rw [draftOfSettings, Draft.addSettings, noLanguages, noExtensions]
  rfl

theorem ofSettings_eq (settings : Settings) :
    ofSettings settings = (draftOfSettings settings).build := by
  unfold ofSettings
  split
  · rfl
  · rename_i plain
    simp only [isCustom, Bool.or_eq_true, Bool.not_eq_true', List.isEmpty_eq_false_iff, not_or,
      not_not] at plain
    obtain ⟨noLanguages, noExtensions⟩ := plain
    rw [draftOfSettings_of_nil noLanguages noExtensions]
    cases settings.profile <;> rfl

/-- The registry of settings is the table of their profile with the settings over it. -/
theorem layers_ofSettings (settings : Settings) :
    ofSettings settings = (draftOfSettings settings).build ∧
    (settings.languages = [] → settings.extensions = [] →
      ofSettings settings = (BuiltIn.ofProfile settings.profile).draft.build) ∧
    ∀ registry, ofSettings settings = .ok registry →
      registry.Layers (BuiltIn.ofProfile settings.profile) settings ∧
      ∀ other : Registry, other.Layers (BuiltIn.ofProfile settings.profile) settings →
        other = registry := by
  refine ⟨ofSettings_eq settings, ?_, ?_⟩
  · intro noLanguages noExtensions
    rw [ofSettings_eq, draftOfSettings_of_nil noLanguages noExtensions]
  · intro registry built
    rw [ofSettings_eq] at built
    have layers := layers_of_builds (Draft.builds_of_build_eq_ok built)
    exact ⟨layers, fun other otherLayers => otherLayers.unique layers⟩

def customLanguages : Settings where
  profile := .compact
  extensions := [("zig", "zig")]
  languages := [
    ⟨" python ", [⟨"\\bself\\b", 3⟩], ["py"]⟩,
    ⟨"zig", [], []⟩,
    ⟨"css\t", [], []⟩,
    ⟨" zig", [⟨"@import", 2⟩], [".ZON"]⟩]

theorem layers_ofSettings_customLanguages :
    ofSettings { profile := .compact } = BuiltIn.compact.draft.build ∧
    ∃ registry, ofSettings customLanguages = .ok registry ∧
      registry.Layers .compact customLanguages ∧
      registry.ids = ["javascript", "typescript", "python", "html", "css", "java", "csharp", "zig"]
      := by
  obtain ⟨registry, built, -⟩ :
      ∃ registry, ofSettings customLanguages = .ok registry ∧ True := by
    apply exists_of_check
    decide +kernel
  have layers := ((layers_ofSettings customLanguages).2.2 registry built).1
  refine ⟨(layers_ofSettings { profile := .compact }).2.1 rfl rfl, registry, built, layers, ?_⟩
  rw [layers.ids]
  decide +kernel

end Registry

end LanguageDetection
