import LanguageDetection.Proofs.Settings.Fields
import LanguageDetection.Proofs.Signature.Layering
import LanguageDetection.Proofs.Spelling

/-!
Which language an extension points to: the one of the last mapping for it, however the mapping and
the extension are spelled. With settings, their table comes before the custom languages, and these
before the built-in table.
-/

namespace LanguageDetection

open LanguageDetection.Extension
open LanguageDetection.Text

/-- The language of the last mapping for an extension. -/
def lastOwner? (mappings : List (String × String)) (spelled : String) : Option String :=
  (mappings.reverse.find? fun mapping => normalize? mapping.1 == normalize? spelled).map (·.2)

/-- The name of the last custom language that lists an extension. -/
def lastLister? (customs : List CustomLanguage) (spelled : String) : Option String :=
  (customs.reverse.find? fun custom =>
    custom.extensions.any fun raw => normalize? raw == normalize? spelled).map
      fun custom => trim custom.name

section LastOwner

variable {mappings : List (String × String)} {spelled : String}

@[simp] theorem lastOwner?_nil (spelled : String) : lastOwner? [] spelled = none := rfl

theorem lastOwner?_append (mappings more : List (String × String)) (spelled : String) :
    lastOwner? (mappings ++ more) spelled =
      (lastOwner? more spelled).or (lastOwner? mappings spelled) := by
  rw [lastOwner?, List.reverse_append, List.find?_append, Option.map_or, lastOwner?, lastOwner?]

theorem lastOwner?_singleton (mapping : String × String) (spelled : String) :
    lastOwner? [mapping] spelled =
      if normalize? mapping.1 = normalize? spelled then some mapping.2 else none := by
  by_cases same : normalize? mapping.1 = normalize? spelled
  · simp [lastOwner?, same]
  · simp [lastOwner?, same]

theorem lastOwner?_cons (mapping : String × String) (mappings : List (String × String))
    (spelled : String) : lastOwner? (mapping :: mappings) spelled =
      (lastOwner? mappings spelled).or
        (if normalize? mapping.1 = normalize? spelled then some mapping.2 else none) := by
  rw [← List.singleton_append, lastOwner?_append, lastOwner?_singleton]

theorem lastOwner?_eq_some_iff {language : String} :
    lastOwner? mappings spelled = some language ↔
      ∃ before raw after, mappings = before ++ (raw, language) :: after ∧
        normalize? raw = normalize? spelled ∧
        ∀ mapping ∈ after, normalize? mapping.1 ≠ normalize? spelled := by
  rw [lastOwner?, Option.map_eq_some_iff]
  constructor
  · rintro ⟨⟨raw, owner⟩, found, rfl⟩
    obtain ⟨same, after, before, split, different⟩ := List.find?_eq_some_iff_append.mp found
    refine ⟨before.reverse, raw, after.reverse, ?_, by simpa using same, ?_⟩
    · rw [← List.reverse_reverse mappings, split]
      simp
    · intro mapping member
      simpa using different mapping (List.mem_reverse.mp member)
  · rintro ⟨before, raw, after, rfl, same, different⟩
    refine ⟨(raw, language), List.find?_eq_some_iff_append.mpr ⟨by simpa using same, ?_⟩, rfl⟩
    refine ⟨after.reverse, before.reverse, by simp, ?_⟩
    intro mapping member
    simpa using different mapping (List.mem_reverse.mp member)

theorem lastOwner?_eq_none_iff :
    lastOwner? mappings spelled = none ↔
      ∀ mapping ∈ mappings, normalize? mapping.1 ≠ normalize? spelled := by
  rw [lastOwner?, Option.map_eq_none_iff, List.find?_eq_none]
  simp

theorem lastOwner?_congr {mappings' : List (String × String)} {spelled' : String}
    (same : List.Forall₂ (fun mapping mapping' =>
      SameExtension mapping.1 mapping'.1 ∧ mapping.2 = mapping'.2) mappings mappings')
    (sameSpelled : SameExtension spelled spelled') :
    lastOwner? mappings spelled = lastOwner? mappings' spelled' := by
  have kept := (sameExtension_iff spelled spelled').mp sameSpelled
  induction same with
  | nil => rw [lastOwner?_nil, lastOwner?_nil]
  | cons first _ ih =>
      have firstKept := (sameExtension_iff ..).mp first.1
      rw [lastOwner?_cons, lastOwner?_cons, ih, firstKept, kept, first.2]

end LastOwner

theorem lastOwner?_mappings (custom : CustomLanguage) (spelled : String) :
    lastOwner? custom.mappings spelled =
      if custom.extensions.any fun raw => normalize? raw == normalize? spelled then
        some (trim custom.name)
      else none := by
  rw [CustomLanguage.mappings]
  induction custom.extensions with
  | nil => rfl
  | cons raw rest ih =>
      rw [List.map_cons, lastOwner?_cons, ih, List.any_cons]
      by_cases same : normalize? raw = normalize? spelled
      · simp only [same, if_true, beq_self_eq_true, Bool.true_or]
        split <;> rfl
      · simp [same]

theorem lastLister?_cons (custom : CustomLanguage) (customs : List CustomLanguage)
    (spelled : String) : lastLister? (custom :: customs) spelled =
      (lastLister? customs spelled).or (lastOwner? custom.mappings spelled) := by
  rw [lastLister?, List.reverse_cons, List.find?_append, Option.map_or, lastOwner?_mappings,
    List.find?_singleton]
  split <;> rfl

theorem lastOwner?_listedMappings (settings : Settings) (spelled : String) :
    lastOwner? settings.listedMappings spelled = lastLister? settings.languages spelled := by
  rw [Settings.listedMappings]
  induction settings.languages with
  | nil => rfl
  | cons custom rest ih =>
      rw [List.flatMap_cons, lastOwner?_append, ih, lastLister?_cons]

theorem lastOwner?_of_keptExtensions {extensions : Dictionary String}
    (kept : KeptExtensions extensions) (spelled : String) :
    lastOwner? extensions spelled = (normalize? spelled).bind extensions.find? := by
  ext language
  rw [lastOwner?_eq_some_iff, Option.bind_eq_some_iff]
  constructor
  · rintro ⟨before, raw, after, split, same, -⟩
    have member : (raw, language) ∈ extensions := by
      rw [split]
      exact List.mem_append_right _ List.mem_cons_self
    rw [← same]
    exact ⟨raw, kept.normalize?_eq (raw, language) member,
      (kept.ascending.mem_iff raw language).mp member⟩
  · rintro ⟨extension, named, found⟩
    have member := (kept.ascending.mem_iff extension language).mpr found
    obtain ⟨before, after, split⟩ := List.append_of_mem member
    refine ⟨before, extension, after, split, ?_, ?_⟩
    · rw [named]
      exact kept.normalize?_eq (extension, language) member
    · intro mapping later same
      have inTable : mapping ∈ extensions := by
        rw [split]
        exact List.mem_append_right _ (List.mem_cons_of_mem _ later)
      rw [kept.normalize?_eq mapping inTable, named] at same
      -- Later keys are greater, so none of them is this extension again.
      have ascending := kept.ascending
      rw [split] at ascending
      have above := List.rel_of_pairwise_cons (List.pairwise_append.mp ascending).2.1 later
      exact absurd (Option.some.inj same).symm above.ne

theorem languageForExtension?_eq_lastOwner? {draft : Draft} {registry : Registry}
    {declarations : List Declaration} (builds : draft.Builds registry)
    (describes : draft.Describes declarations) (spelled : String) :
    registry.languageForExtension? spelled =
      lastOwner? (declaredMappings declarations) spelled := by
  cases kept : normalize? spelled with
  | none =>
      obtain ⟨pairs, built, -⟩ := builds.extensions
      rw [Registry.languageForExtension?, kept, Option.bind_none, eq_comm, lastOwner?_eq_none_iff]
      intro mapping member
      rw [← describes.extensions] at member
      obtain ⟨pair, -, buildsMapping⟩ := exists_of_mem_right built.flip member
      rw [kept, buildsMapping.kept]
      exact Option.some_ne_none _
  | some extension =>
      rw [Registry.languageForExtension?, kept, Option.bind_some,
        (builds.reflects describes).owner, ownerOf?, lastOwner?, kept]

theorem languageForExtension?_ofSteps {start : Start} {steps : List Step} {registry : Registry}
    (built : (Draft.ofSteps start steps).build = .ok registry) (spelled : String) :
    registry.languageForExtension? spelled =
      lastOwner? (declaredMappings (start.declarations steps)) spelled :=
  languageForExtension?_eq_lastOwner? (Draft.builds_of_build_eq_ok built)
    (Draft.describes_ofSteps start steps) spelled

theorem languageForExtension?_builtIn {profile : Profile} {registry : Registry}
    (built : Registry.builtIn profile = .ok registry) (spelled : String) :
    registry.languageForExtension? spelled =
      lastOwner? (BuiltIn.ofProfile profile).extensions spelled := by
  have ofSteps : (Draft.ofSteps (.builtIn profile) []).build = .ok registry := by
    rw [← built]
    cases profile <;> rfl
  rw [languageForExtension?_ofSteps ofSteps, Start.declarations, List.append_nil, Start.steps,
    BuiltIn.flatMap_steps, BuiltIn.declaredMappings_declarations]

theorem languageForExtension?_ofSettings {settings : Settings} {registry builtIn : Registry}
    (built : Registry.ofSettings settings = .ok registry)
    (builtInBuilt : Registry.builtIn settings.profile = .ok builtIn) (spelled : String) :
    registry.languageForExtension? spelled =
      (lastOwner? settings.extensions spelled).or
        ((lastLister? settings.languages spelled).or (builtIn.languageForExtension? spelled)) := by
  have ofSteps : (Draft.ofSteps (.builtIn settings.profile) [.settings settings]).build =
      .ok registry := by
    rw [← built, Registry.ofSettings_eq]
    rfl
  rw [languageForExtension?_ofSteps ofSteps, Start.declarations_settings, declaredMappings_append,
    BuiltIn.declaredMappings_declarations, Settings.declaredMappings_declarations,
    lastOwner?_append, lastOwner?_append, lastOwner?_listedMappings,
    languageForExtension?_builtIn builtInBuilt, Option.or_assoc]

namespace Registry

/-- A registry in which the last mapping for an extension decides. -/
structure FollowsMappings (registry : Registry) (mappings : List (String × String)) : Prop where
  some_iff : ∀ spelled language, registry.languageForExtension? spelled = some language ↔
    ∃ before raw after, mappings = before ++ (raw, language) :: after ∧
      normalize? raw = normalize? spelled ∧
      ∀ mapping ∈ after, normalize? mapping.1 ≠ normalize? spelled
  none_iff : ∀ spelled, registry.languageForExtension? spelled = none ↔
    (trim spelled = "" ∨ trim spelled = ".") ∨
      ∀ mapping ∈ mappings, normalize? mapping.1 ≠ normalize? spelled

theorem followsMappings_of_build {start : Start} {steps : List Step} {registry : Registry}
    (built : (Draft.ofSteps start steps).build = .ok registry) :
    registry.FollowsMappings (declaredMappings (start.declarations steps)) := by
  constructor
  · intro spelled language
    rw [languageForExtension?_ofSteps built, lastOwner?_eq_some_iff]
  · intro spelled
    constructor
    · intro missing
      rw [languageForExtension?_ofSteps built] at missing
      exact Or.inr (lastOwner?_eq_none_iff.mp missing)
    · rintro (nothing | unmapped)
      · rw [languageForExtension?, (normalize?_eq_none_iff_trim spelled).mpr nothing]
        rfl
      · rw [languageForExtension?_ofSteps built]
        exact lastOwner?_eq_none_iff.mpr unmapped

/-- The last mapping decides; with settings, their table comes first, then the custom languages,
then the built-in table; and spelling makes no difference. -/
theorem extension_precedence :
    (∀ start steps registry, (Draft.ofSteps start steps).build = .ok registry →
      registry.FollowsMappings (declaredMappings (start.declarations steps))) ∧
    (∀ settings registry, ofSettings settings = .ok registry →
      ∃ table, builtIn settings.profile = .ok table ∧ ∀ spelled,
        registry.languageForExtension? spelled =
          (lastOwner? settings.extensions spelled).or
            ((lastLister? settings.languages spelled).or (table.languageForExtension? spelled))) ∧
    (∀ origin (document : Document) settings, document.readSettings origin = .ok settings →
      ∀ spelled, lastOwner? settings.extensions spelled =
        (normalize? spelled).bind settings.extensions.find?) ∧
    ∀ start steps registry start' steps' registry',
      (Draft.ofSteps start steps).build = .ok registry →
      (Draft.ofSteps start' steps').build = .ok registry' →
      List.Forall₂ (fun mapping mapping' =>
          SameExtension mapping.1 mapping'.1 ∧ mapping.2 = mapping'.2)
        (declaredMappings (start.declarations steps))
        (declaredMappings (start'.declarations steps')) →
      ∀ spelled spelled', SameExtension spelled spelled' →
        registry.languageForExtension? spelled = registry'.languageForExtension? spelled' := by
  refine ⟨?_, ?_, ?_, ?_⟩
  · intro start steps registry
    exact followsMappings_of_build
  · intro settings registry built
    obtain ⟨table, tableBuilt⟩ := exists_builtIn settings.profile
    exact ⟨table, tableBuilt, languageForExtension?_ofSettings built tableBuilt⟩
  · intro origin document settings read
    exact lastOwner?_of_keptExtensions (Document.keptExtensions_of_readSettings read)
  · intro start steps registry start' steps' registry' built built' same spelled spelled'
      sameSpelled
    rw [languageForExtension?_ofSteps built, languageForExtension?_ofSteps built']
    exact lastOwner?_congr same sameSpelled

def reassigned : List Step :=
  [.rule "c" "\\bgoto\\b" 1, .extension "H" "c", .rule "cpp" "\\bstd::" 1, .extension " .h" "cpp"]

def respelled : List Step :=
  [.rule "c" "\\bgoto\\b" 1, .extension ".h" "c", .rule "cpp" "\\bstd::" 1, .extension "h" "cpp"]

/-- Settings whose table takes an extension from the custom languages that list it. -/
def listedTwice : Document :=
  .object [("profile", .text "compact"), ("extensions", .object [("H ", .text "css")]),
    ("languages", .array [
      .object [("name", .text "c"), ("rules", .array [.object [("pattern", .text "goto")]]),
        ("extensions", .text "h,m")],
      .object [("name", .text "matlab"), ("extensions", .text ".M")]])]

theorem extension_precedence_reassigned :
    (∃ registry registry', (Draft.ofSteps .empty reassigned).build = .ok registry ∧
      (Draft.ofSteps .empty respelled).build = .ok registry' ∧
      registry.languageForExtension? ".H\t" = some "cpp" ∧
      registry.languageForExtension? " . " = none ∧
      registry.languageForExtension? ".H\t" = registry'.languageForExtension? "h") ∧
    ∃ settings registry, listedTwice.readSettings .json = .ok settings ∧
      ofSettings settings = .ok registry ∧
      registry.languageForExtension? ".H" = some "css" ∧
      registry.languageForExtension? "m" = some "matlab" := by
  obtain ⟨ofMappings, ofLayers, ofRead, respelling⟩ := extension_precedence
  constructor
  · obtain ⟨registry, built⟩ := failure?_eq_none_iff.mp
      (show failure? (Draft.ofSteps .empty reassigned).build = none by decide +kernel)
    obtain ⟨registry', built'⟩ := failure?_eq_none_iff.mp
      (show failure? (Draft.ofSteps .empty respelled).build = none by decide +kernel)
    have follows := ofMappings .empty reassigned registry built
    refine ⟨registry, registry', built, built', ?_, ?_, ?_⟩
    · exact (follows.some_iff ".H\t" "cpp").mpr
        ⟨[("H", "c")], " .h", [], rfl, by decide +kernel, fun _ member => nomatch member⟩
    · exact (follows.none_iff " . ").mpr (Or.inl (Or.inr (by decide)))
    · refine respelling .empty reassigned registry .empty respelled registry' built built' ?_ _ _ ?_
      · exact .cons ⟨(sameExtension_iff ..).mpr (by decide +kernel), rfl⟩
          (.cons ⟨(sameExtension_iff ..).mpr (by decide +kernel), rfl⟩ .nil)
      · exact (sameExtension_iff ..).mpr (by decide +kernel)
  · obtain ⟨settings, read, succeeds, inTable, notInTable, listed⟩ :
        ∃ settings, listedTwice.readSettings .json = .ok settings ∧
          failure? (ofSettings settings) = none ∧
          settings.extensions.find? ".h" = some "css" ∧
          settings.extensions.find? ".m" = none ∧
          lastLister? settings.languages "m" = some "matlab" := by
      apply exists_of_check
      decide +kernel
    obtain ⟨registry, built⟩ := failure?_eq_none_iff.mp succeeds
    obtain ⟨table, -, layers⟩ := ofLayers settings registry built
    have h : normalize? ".H" = some ".h" := by decide +kernel
    have m : normalize? "m" = some ".m" := by decide +kernel
    refine ⟨settings, registry, read, built, ?_, ?_⟩
    · rw [layers, ofRead .json listedTwice settings read, h, Option.bind_some, inTable]
      rfl
    · rw [layers, ofRead .json listedTwice settings read, m, Option.bind_some, notInTable, listed]
      rfl

end Registry

end LanguageDetection
