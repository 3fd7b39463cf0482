import LanguageDetection.Proofs.Dictionary
import LanguageDetection.Proofs.Signature.Building

/-!
What holds of every registry that is built, whatever the steps before.
-/

namespace LanguageDetection

open LanguageDetection.Pattern

namespace Registry

structure WellFormed (registry : Registry) : Prop where
  nonempty : registry.languages ≠ []
  id_ne : ∀ language ∈ registry.languages, language.id ≠ ""
  ids_nodup : registry.ids.Nodup
  one_le_weight : ∀ language ∈ registry.languages, ∀ rule ∈ language.rules, 1 ≤ rule.weight
  ascending : registry.extensions.Ascending
  isKey : ∀ pair ∈ registry.extensions, Extension.IsKey pair.1
  mapped : ∀ pair ∈ registry.extensions, pair.2 ∈ registry.ids
  reachable : ∀ language ∈ registry.languages,
    language.rules ≠ [] ∨ ∃ extension, (extension, language.id) ∈ registry.extensions
  place_iff : ∀ id place, registry.index.find? id = some place ↔ registry.ids[place]? = some id
  place_lt : ∀ id place, registry.index.find? id = some place → place < registry.languages.length
  language?_iff : ∀ id (place : Nat) language, registry.languages[place]? = some language →
    (registry.language? id = some language ↔ registry.ids[place]? = some id)
  rules?_of_place : ∀ id (place : Nat) language, registry.languages[place]? = some language →
    registry.ids[place]? = some id → registry.rules? id = some language.rules
  language?_none : ∀ id, registry.language? id = none ↔ id ∉ registry.ids
  rules?_none : ∀ id, registry.rules? id = none ↔ id ∉ registry.ids

theorem find?_places {languages : List Language} (distinct : (languages.map (·.id)).Nodup)
    (id : String) (place : Nat) :
    (places languages).find? id = some place ↔ (languages.map (·.id))[place]? = some id := by
  have keys : languages.zipIdx.map (fun pair => pair.1.id) = languages.map (·.id) := by
    conv => rhs; rw [← List.zipIdx_map_fst 0 languages, List.map_map]
    rfl
  rw [places, Dictionary.find?_ofList_eq_some_iff (by rw [List.map_map]; exact keys ▸ distinct),
    List.mem_map, List.getElem?_map, Option.map_eq_some_iff]
  constructor
  · rintro ⟨⟨language, place'⟩, member, equal⟩
    obtain ⟨rfl, rfl⟩ := Prod.mk.inj equal
    exact ⟨language, List.mem_zipIdx_iff_getElem?.mp member, rfl⟩
  · rintro ⟨language, found, rfl⟩
    exact ⟨(language, place), List.mem_zipIdx_iff_getElem?.mpr found, rfl⟩

section Lookup

variable {registry : Registry} (distinct : registry.ids.Nodup)
  (indexed : registry.index = places registry.languages)

include distinct indexed

theorem place_iff_of_indexed (id : String) (place : Nat) :
    registry.index.find? id = some place ↔ registry.ids[place]? = some id := by
  rw [indexed]
  exact find?_places distinct id place

theorem language?_eq_some_iff (id : String) (language : Language) :
    registry.language? id = some language ↔
      ∃ place : Nat, registry.ids[place]? = some id ∧ registry.languages[place]? = some language := by
  rw [language?, Option.bind_eq_some_iff]
  simp only [place_iff_of_indexed distinct indexed]

theorem language?_eq_none_iff (id : String) : registry.language? id = none ↔ id ∉ registry.ids := by
  constructor
  · intro missing member
    obtain ⟨place, inRange, found⟩ := List.getElem_of_mem member
    have named : registry.ids[place]? = some id := by rw [List.getElem?_eq_getElem inRange, found]
    rw [ids, List.getElem?_map, Option.map_eq_some_iff] at named
    obtain ⟨language, atPlace, rfl⟩ := named
    have there := (language?_eq_some_iff distinct indexed language.id language).mpr
      ⟨place, by rw [ids, List.getElem?_map, atPlace]; rfl, atPlace⟩
    rw [missing] at there
    contradiction
  · intro undeclared
    rw [Option.eq_none_iff_forall_ne_some]
    intro language found
    obtain ⟨place, named, -⟩ := (language?_eq_some_iff distinct indexed id language).mp found
    exact undeclared (List.mem_of_getElem? named)

theorem language?_iff_of_place {place : Nat} {language : Language}
    (atPlace : registry.languages[place]? = some language) (id : String) :
    registry.language? id = some language ↔ registry.ids[place]? = some id := by
  have named : registry.ids[place]? = some language.id := by
    rw [ids, List.getElem?_map, atPlace]
    rfl
  rw [language?_eq_some_iff distinct indexed]
  constructor
  · rintro ⟨other, otherNamed, atOther⟩
    rw [ids, List.getElem?_map, atOther] at otherNamed
    rw [named]
    exact otherNamed
  · intro named
    exact ⟨place, named, atPlace⟩

end Lookup

end Registry

namespace Draft

section Builds

variable {draft : Draft} {registry : Registry} (builds : draft.Builds registry)

include builds

theorem Builds.ids_eq : registry.ids = draft.languages.map (·.id) :=
  map_id_eq_of_buildsLanguage builds.languages

theorem Builds.exists_drafted {language : Language} (member : language ∈ registry.languages) :
    ∃ drafted ∈ draft.languages, BuildsLanguage drafted language :=
  exists_of_mem_right builds.languages member

theorem Builds.exists_mapping {pair : String × String} (member : pair ∈ registry.extensions) :
    ∃ mapping ∈ draft.extensions, BuildsMapping registry.ids mapping pair := by
  obtain ⟨pairs, built, equal⟩ := builds.extensions
  rw [equal] at member
  exact exists_of_mem_right built (Dictionary.mem_of_mem_ofList member)

theorem Builds.wellFormed {declarations : List Declaration}
    (describes : draft.Describes declarations) : registry.WellFormed := by
  have ids_nodup : registry.ids.Nodup := by
    rw [builds.ids_eq, describes.ids]
    exact nodup_declaredIds declarations
  have indexed := builds.index
  constructor
  case nonempty =>
    intro empty
    have lengths := builds.languages.length_eq
    rw [empty] at lengths
    exact builds.nonempty (List.length_eq_zero_iff.mp lengths)
  case id_ne =>
    intro language member
    obtain ⟨drafted, -, built⟩ := builds.exists_drafted member
    exact built.id_ne
  case ids_nodup => exact ids_nodup
  case one_le_weight =>
    intro language member rule inRules
    obtain ⟨drafted, -, built⟩ := builds.exists_drafted member
    obtain ⟨draftedRule, -, builtRule⟩ := exists_of_mem_right built.rules inRules
    have positive : rule.weight.toNat ≠ 0 := fun zero => builtRule.weight_ne (UInt32.toNat_inj.mp zero)
    rw [UInt32.le_iff_toNat_le]
    exact Nat.one_le_iff_ne_zero.mpr positive
  case ascending =>
    obtain ⟨pairs, -, equal⟩ := builds.extensions
    rw [equal]
    exact Dictionary.ascending_ofList pairs
  case isKey =>
    intro pair member
    obtain ⟨mapping, -, built⟩ := builds.exists_mapping member
    exact Extension.isKey_of_normalize?_eq_some built.kept built.wellFormed
  case mapped =>
    intro pair member
    obtain ⟨mapping, -, built⟩ := builds.exists_mapping member
    exact built.declared
  case reachable =>
    intro language member
    have reachable := builds.reachable language member
    simp only [isReachable, Bool.or_eq_true, Bool.not_eq_true', List.isEmpty_eq_false_iff,
      List.any_eq_true, beq_iff_eq] at reachable
    refine reachable.imp_right ?_
    rintro ⟨⟨extension, id⟩, inExtensions, rfl⟩
    exact ⟨extension, inExtensions⟩
  case place_iff => exact Registry.place_iff_of_indexed ids_nodup indexed
  case place_lt =>
    intro id place found
    have named := (Registry.place_iff_of_indexed ids_nodup indexed id place).mp found
    obtain ⟨inRange, -⟩ := List.getElem?_eq_some_iff.mp named
    rwa [Registry.ids, List.length_map] at inRange
  case language?_iff =>
    intro id place language atPlace
    exact Registry.language?_iff_of_place ids_nodup indexed atPlace id
  case rules?_of_place =>
    intro id place language atPlace named
    rw [Registry.rules?, (Registry.language?_iff_of_place ids_nodup indexed atPlace id).mpr named]
    rfl
  case language?_none => exact Registry.language?_eq_none_iff ids_nodup indexed
  case rules?_none =>
    intro id
    rw [Registry.rules?, Option.map_eq_none_iff]
    exact Registry.language?_eq_none_iff ids_nodup indexed id

end Builds

end Draft

namespace Registry

/-- Every registry that is built is well-formed, whatever was declared and in which order. -/
theorem wellFormed_of_build {start : Start} {steps : List Step} {registry : Registry}
    (built : (Draft.ofSteps start steps).build = .ok registry) : registry.WellFormed :=
  (Draft.builds_of_build_eq_ok built).wellFormed (Draft.describes_ofSteps start steps)

/-- A language that is declared by its rule, and an extension that changes hands. -/
theorem wellFormed_of_build_remapped :
    ∃ registry, (Draft.ofSteps .empty [
        .rule "cpp" "\\bstd::" 3, .extension "H" "cpp", .language "c" [],
        .settings { languages := [⟨" c ", [⟨"\\bgoto\\b", 2⟩], [".c"]⟩] },
        .extension " .h" "c"]).build = .ok registry ∧
      registry.WellFormed := by
  refine Exists.imp (fun registry built => ⟨built, wellFormed_of_build built⟩)
    (failure?_eq_none_iff.mp ?_)
  decide +kernel

end Registry

end LanguageDetection
