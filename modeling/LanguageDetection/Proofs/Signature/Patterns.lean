import LanguageDetection.Proofs.Pattern.Case
import LanguageDetection.Proofs.Signature.Rejection
import LanguageDetection.Proofs.Signature.BuiltIn

/-!
The patterns of the built-in tables: the rules of a built-in registry search for them, so what is
checked of the patterns holds of the rules.
-/

namespace LanguageDetection

open LanguageDetection.Pattern

theorem Pattern.Searcher.exists_resolved_of_ofPattern {pattern : String} {searcher : Searcher}
    (compiled : ofPattern pattern = .ok searcher) :
    ∃ resolved, Resolved.ofPattern pattern = .ok resolved ∧ searcher = .ofRegex resolved.toRegex := by
  unfold ofPattern at compiled
  cases read : Resolved.ofPattern pattern with
  | error fault => simp [read] at compiled
  | ok resolved =>
      simp only [read] at compiled
      split at compiled
      · contradiction
      · exact ⟨resolved, rfl, (Except.ok.inj compiled).symm⟩

namespace BuiltIn

def patterns (table : BuiltIn) : List String :=
  table.languages.flatMap (·.2)

/-- Whether what every pattern of a table stands for passes a check. -/
def passes (table : BuiltIn) (check : Regex → Bool) : Bool :=
  table.patterns.all fun pattern =>
    (Resolved.ofPattern pattern).toOption.any fun resolved => check resolved.toRegex

theorem mem_patterns_of_mem_rulesOf {table : BuiltIn} {id : String} {rule : String × UInt32}
    (member : rule ∈ table.rulesOf id) : rule.1 ∈ table.patterns := by
  obtain ⟨⟨name, patterns⟩, inTable, given⟩ := List.mem_flatMap.mp member
  refine List.mem_flatMap.mpr ⟨(name, patterns), inTable, ?_⟩
  dsimp only at given
  split at given
  · obtain ⟨pattern, isPattern, rfl⟩ := List.mem_map.mp given
    exact isPattern
  · contradiction

theorem describes_draft (table : BuiltIn) : table.draft.Describes table.declarations := by
  rw [draft, Draft.applyAll_eq, flatMap_steps]
  exact Draft.describes_nil.foldl_add _

theorem build_draft (profile : Profile) :
    (ofProfile profile).draft.build = Registry.builtIn profile := by
  cases profile <;> rfl

theorem passes_isConfined_and_ignoresCase (profile : Profile) :
    (ofProfile profile).passes (fun r => r.isConfined && r.ignoresCase) = true := by
  cases profile <;> decide +kernel

theorem passes_mono {table : BuiltIn} {check weaker : Regex → Bool}
    (weakens : ∀ r, check r = true → weaker r = true) (passes : table.passes check = true) :
    table.passes weaker = true := by
  refine List.all_eq_true.mpr fun pattern member => ?_
  obtain ⟨resolved, read, checked⟩ :=
    (Option.any_eq_true _ _).mp (List.all_eq_true.mp passes pattern member)
  exact (Option.any_eq_true _ _).mpr ⟨resolved, read, weakens _ checked⟩

theorem passes_isConfined (profile : Profile) :
    (ofProfile profile).passes Regex.isConfined = true :=
  passes_mono (fun _ both => (Bool.and_eq_true_iff.mp both).1)
    (passes_isConfined_and_ignoresCase profile)

end BuiltIn

namespace Registry

variable {profile : Profile} {registry : Registry} {language : Language} {rule : Rule}

theorem reflects_of_builtIn (built : builtIn profile = .ok registry) :
    registry.Reflects (BuiltIn.ofProfile profile).declarations := by
  rw [← BuiltIn.build_draft] at built
  exact (Draft.builds_of_build_eq_ok built).reflects (BuiltIn.describes_draft _)

theorem exists_regex_of_builtIn (built : builtIn profile = .ok registry)
    (declared : language ∈ registry.languages) (isRule : rule ∈ language.rules)
    {check : Regex → Bool} (passes : (BuiltIn.ofProfile profile).passes check = true) :
    ∃ r, check r = true ∧ rule.searcher = .ofRegex r := by
  have reflects := reflects_of_builtIn built
  have listed : (rule.pattern, rule.weight) ∈ (BuiltIn.ofProfile profile).rulesOf language.id := by
    rw [← BuiltIn.declaredRules_declarations, ← reflects.rules language declared]
    exact List.mem_map_of_mem isRule
  have checked := List.all_eq_true.mp passes _ (BuiltIn.mem_patterns_of_mem_rulesOf listed)
  obtain ⟨resolved, read, searches⟩ :=
    Searcher.exists_resolved_of_ofPattern (reflects.compiled language declared rule isRule)
  rw [read] at checked
  exact ⟨resolved.toRegex, checked, searches⟩

end Registry

end LanguageDetection
