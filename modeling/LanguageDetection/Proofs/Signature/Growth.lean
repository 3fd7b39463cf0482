import LanguageDetection.Proofs.Signature.Layering

/-!
Registries that grow: when only new languages are declared, and no extensions, the registry keeps
all it had and the new languages follow.
-/

namespace LanguageDetection

/-- Declarations of other languages than the known ones, and of no extensions. -/
structure AddsLanguages (known : List String) (more : List Declaration) : Prop where
  isNew : ∀ d ∈ more, ∀ id, d.id? = some id → id ∉ known
  noMapping : ∀ d ∈ more, d.mapping? = none

section AddsLanguages

variable {declarations more : List Declaration}
  (adds : AddsLanguages (declaredIds declarations) more)

include adds

theorem AddsLanguages.declaredIds_append :
    declaredIds (declarations ++ more) = declaredIds declarations ++ declaredIds more := by
  have allNew : (more.filterMap Declaration.id?).filter (· ∉ declaredIds declarations) =
      more.filterMap Declaration.id? := by
    rw [List.filter_eq_self]
    intro id member
    obtain ⟨d, inMore, named⟩ := List.mem_filterMap.mp member
    simpa using adds.isNew d inMore id named
  rw [LanguageDetection.declaredIds_append, allNew]
  rfl

theorem AddsLanguages.not_mem_declaredIds {id : String} (known : id ∈ declaredIds declarations) :
    id ∉ declaredIds more := by
  intro added
  obtain ⟨d, inMore, named⟩ := mem_declaredIds.mp added
  exact adds.isNew d inMore id named known

theorem AddsLanguages.declaredMappings_append :
    declaredMappings (declarations ++ more) = declaredMappings declarations := by
  have noMappings : declaredMappings more = [] := List.filterMap_eq_nil_iff.mpr adds.noMapping
  rw [LanguageDetection.declaredMappings_append, noMappings, List.append_nil]

end AddsLanguages

namespace Registry

/-- A registry that has what another one has, and more languages after it. -/
structure Extends (registry' registry : Registry) (added : List Language) : Prop where
  languages : registry'.languages = registry.languages ++ added
  isNew : ∀ language ∈ added, language.id ∉ registry.ids
  extensions : registry'.extensions = registry.extensions

theorem exists_extends {draft draft' : Draft} {registry registry' : Registry}
    {declarations more : List Declaration} (builds : draft.Builds registry)
    (describes : draft.Describes declarations) (builds' : draft'.Builds registry')
    (describes' : draft'.Describes (declarations ++ more))
    (adds : AddsLanguages registry.ids more) :
    ∃ added, registry'.Extends registry added ∧ added.map (·.id) = declaredIds more ∧
      ∀ language ∈ added, language.rules.map (fun rule => (rule.pattern, rule.weight)) =
        declaredRules more language.id := by
  have reflects := builds.reflects describes
  have reflects' := builds'.reflects describes'
  rw [reflects.ids] at adds
  have ids' := reflects'.ids
  rw [adds.declaredIds_append, ids] at ids'
  obtain ⟨kept, added, split, keptIds, addedIds⟩ := List.map_eq_append_iff.mp ids'
  have same : registry.languages = kept := by
    refine eq_of_map_eq (reflects.ids.trans keptIds.symm) ?_
    intro language member language' member' sameId
    have inRegistry' : language' ∈ registry'.languages := by
      rw [split]
      exact List.mem_append_left _ member'
    have known : language'.id ∈ declaredIds declarations := by
      rw [← keptIds]
      exact List.mem_map_of_mem member'
    refine Language.eq_of_compiled sameId ?_ (reflects.compiled language member)
      (reflects'.compiled language' inRegistry')
    -- What is added has no rules for a language that was there.
    rw [reflects.rules language member, reflects'.rules language' inRegistry', sameId,
      declaredRules_append, declaredRules_eq_nil (adds.not_mem_declaredIds known),
      List.append_nil]
  have unknown : ∀ language ∈ added, language.id ∉ declaredIds declarations := by
    intro language member known
    apply adds.not_mem_declaredIds known
    rw [← addedIds]
    exact List.mem_map_of_mem member
  refine ⟨added, ⟨by rw [split, same], ?_, ?_⟩, addedIds, ?_⟩
  · rw [reflects.ids]
    exact unknown
  · rw [builds'.extensions_eq, builds.extensions_eq, describes'.extensions, describes.extensions,
      adds.declaredMappings_append]
  · intro language member
    have inRegistry' : language ∈ registry'.languages := by
      rw [split]
      exact List.mem_append_right _ member
    rw [reflects'.rules language inRegistry', declaredRules_append,
      declaredRules_eq_nil (unknown language member), List.nil_append]

theorem exists_extends_ofSteps {start : Start} {steps more : List Step}
    {registry registry' : Registry} (built : (Draft.ofSteps start steps).build = .ok registry)
    (built' : (Draft.ofSteps start (steps ++ more)).build = .ok registry')
    (adds : AddsLanguages registry.ids (more.flatMap Step.declarations)) :
    ∃ added, registry'.Extends registry added ∧
      added.map (·.id) = declaredIds (more.flatMap Step.declarations) ∧
      ∀ language ∈ added, language.rules.map (fun rule => (rule.pattern, rule.weight)) =
        declaredRules (more.flatMap Step.declarations) language.id := by
  have describes' := Draft.describes_ofSteps start (steps ++ more)
  rw [Start.declarations, ← List.append_assoc, List.flatMap_append, ← Start.declarations]
    at describes'
  exact exists_extends (Draft.builds_of_build_eq_ok built) (Draft.describes_ofSteps start steps)
    (Draft.builds_of_build_eq_ok built') describes' adds

end Registry

end LanguageDetection
