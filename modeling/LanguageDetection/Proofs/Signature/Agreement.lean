import LanguageDetection.Proofs.Signature.Mapping

/-!
Declarations that differ in ways no registry keeps: what is built from them is the same, and so is
what is reported when nothing is.
-/

namespace LanguageDetection

open LanguageDetection.Extension

/-- Declarations that cannot be told apart by what is built from them. -/
structure Agree (declarations declarations' : List Declaration) : Prop where
  ids : declaredIds declarations = declaredIds declarations'
  rules : ∀ id, declaredRules declarations id = declaredRules declarations' id
  repeated : (repeatedIds declarations).head? = (repeatedIds declarations').head?
  refused : ∀ ids, (declaredMappings declarations).findSome? (mappingRejection? ids) =
    (declaredMappings declarations').findSome? (mappingRejection? ids)
  owner : ∀ extension, ownerOf? declarations extension = ownerOf? declarations' extension

section

variable {declarations declarations' : List Declaration}

/-- Owners are asked for by kept forms, of which not all are spelled by themselves. -/
theorem ownerOf?_congr (same : ∀ spelled, lastOwner? (declaredMappings declarations) spelled =
      lastOwner? (declaredMappings declarations') spelled) (extension : String) :
    ownerOf? declarations extension = ownerOf? declarations' extension := by
  by_cases reached : ∃ spelled, normalize? spelled = some extension
  · obtain ⟨spelled, kept⟩ := reached
    have owners := same spelled
    rw [lastOwner?, lastOwner?, kept] at owners
    exact owners
  · have unowned (declarations : List Declaration) : ownerOf? declarations extension = none := by
      rw [ownerOf?, Option.map_eq_none_iff, List.find?_eq_none]
      intro mapping _ found
      exact reached ⟨mapping.1, eq_of_beq found⟩
    rw [unowned, unowned]

variable (agree : Agree declarations declarations')

include agree

theorem Agree.isUnreachable_eq : isUnreachable declarations = isUnreachable declarations' := by
  funext id
  have owned : (owners declarations).contains id = (owners declarations').contains id := by
    rw [Bool.eq_iff_iff, List.contains_iff_mem, List.contains_iff_mem, mem_owners_iff,
      mem_owners_iff]
    simp only [agree.owner]
  rw [isUnreachable, isUnreachable, agree.rules, owned]

theorem Agree.rejection?_eq : rejection? declarations = rejection? declarations' := by
  have rules : declaredRules declarations = declaredRules declarations' := funext agree.rules
  simp only [rejection?, agree.ids, rules, agree.repeated, agree.refused, agree.isUnreachable_eq]

theorem Agree.registry_eq {draft draft' : Draft} {registry registry' : Registry}
    (describes : draft.Describes declarations) (describes' : draft'.Describes declarations')
    (builds : draft.Builds registry) (builds' : draft'.Builds registry') :
    registry = registry' := by
  have reflects := builds.reflects describes
  have reflects' := builds'.reflects describes'
  refine Registry.eq_of_compiled (reflects.ids.trans (agree.ids.trans reflects'.ids.symm)) ?_
    reflects.compiled reflects'.compiled builds.index builds'.index ?_
  · intro language member language' member' sameId
    rw [reflects.rules language member, reflects'.rules language' member', sameId, agree.rules]
  · obtain ⟨pairs, -, made⟩ := builds.extensions
    obtain ⟨pairs', -, made'⟩ := builds'.extensions
    refine Dictionary.Ascending.ext (made ▸ Dictionary.ascending_ofList pairs)
      (made' ▸ Dictionary.ascending_ofList pairs') ?_
    intro extension
    rw [reflects.owner, reflects'.owner, agree.owner]

theorem Agree.build_eq {draft draft' : Draft} (describes : draft.Describes declarations)
    (describes' : draft'.Describes declarations') : draft.build = draft'.build := by
  have failures : failure? draft.build = failure? draft'.build := by
    rw [describes.failure?_build, describes'.failure?_build, agree.rejection?_eq]
  cases built : draft.build with
  | error error =>
      rw [built, failure?, eq_comm, failure?_eq_some_iff] at failures
      exact failures.symm
  | ok registry =>
      rw [built, failure?, eq_comm, failure?_eq_none_iff] at failures
      obtain ⟨registry', built'⟩ := failures
      rw [built', agree.registry_eq describes describes' (Draft.builds_of_build_eq_ok built)
        (Draft.builds_of_build_eq_ok built')]

end

end LanguageDetection
