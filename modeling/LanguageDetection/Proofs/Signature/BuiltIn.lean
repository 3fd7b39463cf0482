import LanguageDetection.Proofs.Signature.Building

/-!
The built-in tables: what they declare, and that a registry is built from each of them.
-/

namespace LanguageDetection

namespace BuiltIn

def ids (table : BuiltIn) : List String :=
  table.languages.map (·.1)

def rulesOf (table : BuiltIn) (id : String) : List (String × UInt32) :=
  table.languages.flatMap fun (name, patterns) =>
    if name = id then patterns.map fun p => (p, 1) else []

def declarations (table : BuiltIn) : List Declaration :=
  table.languages.map (fun (id, patterns) => .language id patterns)
    ++ table.extensions.map fun (raw, id) => .extension raw id

variable (table : BuiltIn)

theorem flatMap_steps : table.steps.flatMap Step.declarations = table.declarations := by
  rw [steps, declarations, List.flatMap_append, List.flatMap_map, List.flatMap_map,
    List.map_eq_flatMap, List.map_eq_flatMap]
  rfl

theorem filterMap_id?_declarations : table.declarations.filterMap Declaration.id? = table.ids := by
  simp [declarations, ids, List.filterMap_map, Function.comp_def, Declaration.id?]

theorem declaredRules_declarations (id : String) :
    declaredRules table.declarations id = table.rulesOf id := by
  simp [declaredRules, declarations, rulesOf, List.flatMap_map, Declaration.rulesFor]

theorem declaredMappings_declarations :
    declaredMappings table.declarations = table.extensions := by
  simp [declaredMappings, declarations, List.filterMap_map, Function.comp_def,
    Declaration.mapping?]

theorem declaredIds_declarations (profile : Profile) :
    declaredIds (ofProfile profile).declarations = (ofProfile profile).ids := by
  rw [declaredIds, filterMap_id?_declarations]
  cases profile <;> decide

end BuiltIn

theorem Registry.exists_builtIn (profile : Profile) :
    ∃ registry, builtIn profile = .ok registry := by
  rw [← failure?_eq_none_iff]
  cases profile <;> decide +kernel

end LanguageDetection
