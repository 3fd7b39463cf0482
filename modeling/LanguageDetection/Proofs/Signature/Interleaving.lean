import LanguageDetection.Proofs.Signature.Layering

/-!
Steps of two kinds between each other. Languages and rules are kept in one part of a draft and the
mappings of extensions in another, so the order counts within each kind only. Settings are no kind
of their own: they are the steps that they stand for.
-/

namespace LanguageDetection

open LanguageDetection.Text

namespace Step

def isDeclaring : Step → Bool
  | .language _ _ | .rule _ _ _ => true
  | .extension _ _ | .settings _ => false

def isExtension : Step → Bool
  | .extension _ _ => true
  | .language _ _ | .rule _ _ _ | .settings _ => false

end Step

/-- A custom language is declared unless it is known, and is given its rules. -/
def CustomLanguage.declaringSteps (known : List String) (custom : CustomLanguage) : List Step :=
  (if trim custom.name ∈ known then [] else [.language (trim custom.name) []])
    ++ custom.rules.map fun rule => .rule (trim custom.name) rule.pattern rule.weight

def declaringSteps (known : List String) : List CustomLanguage → List Step
  | [] => []
  | custom :: rest =>
      custom.declaringSteps known ++ declaringSteps (known ++ [trim custom.name]) rest

/-- All custom languages and their rules, then the extensions that they list, and the table. -/
def Settings.steps (known : List String) (settings : Settings) : List Step :=
  declaringSteps known settings.languages
    ++ (settings.listedMappings ++ settings.extensions).map fun (raw, id) => .extension raw id

/-- The declarations of steps that map no extension. -/
def declaringParts (declarations : List Declaration) : List Declaration :=
  declarations.filter (·.mapping?.isNone)

theorem declaredMappings_declaringParts (declarations : List Declaration) :
    declaredMappings (declaringParts declarations) = [] := by
  rw [declaredMappings, List.filterMap_eq_nil_iff]
  intro d member
  exact Option.isNone_iff_eq_none.mp (List.mem_filter.mp member).2

theorem declaringParts_append (declarations more : List Declaration) :
    declaringParts (declarations ++ more) = declaringParts declarations ++ declaringParts more :=
  List.filter_append ..

theorem declaringParts_extensions {α : Type} (items : List α) (raw id : α → String) :
    declaringParts (items.map fun item => .extension (raw item) (id item)) = [] := by
  apply List.filter_eq_nil_iff.mpr
  intro d member
  obtain ⟨item, -, rfl⟩ := List.mem_map.mp member
  exact Bool.false_ne_true

theorem CustomLanguage.declaringParts_declarations (custom : CustomLanguage) :
    declaringParts custom.declarations = .mention (trim custom.name)
      :: custom.rules.map fun rule => .rule (trim custom.name) rule.pattern rule.weight := by
  have rules : declaringParts
      (custom.rules.map fun rule => .rule (trim custom.name) rule.pattern rule.weight) =
        custom.rules.map fun rule => .rule (trim custom.name) rule.pattern rule.weight := by
    apply List.filter_eq_self.mpr
    intro d member
    obtain ⟨rule, -, rfl⟩ := List.mem_map.mp member
    rfl
  rw [declarations, declaringParts_append, declaringParts_extensions, List.append_nil]
  exact congrArg (Declaration.mention (trim custom.name) :: ·) rules

theorem Settings.declaringParts_declarations (settings : Settings) :
    declaringParts settings.declarations =
      declaringParts (settings.languages.flatMap CustomLanguage.declarations) := by
  rw [declarations, Step.declarations, declaringParts_append, declaringParts_extensions,
    List.append_nil]

section

variable {steps : List Step}
  (plain : ∀ step ∈ steps, step.isDeclaring = true ∨ step.isExtension = true)

include plain

theorem declaringParts_flatMap_declarations :
    declaringParts (steps.flatMap Step.declarations) =
      (steps.filter Step.isDeclaring).flatMap Step.declarations := by
  induction steps with
  | nil => rfl
  | cons step rest ih =>
      obtain ⟨first, plain⟩ := List.forall_mem_cons.mp plain
      rw [List.flatMap_cons, declaringParts_append, ih plain]
      cases step with
      | language id patterns => rfl
      | rule id pattern weight => rfl
      | extension raw id => rfl
      | settings settings => cases first <;> contradiction

theorem declaredMappings_flatMap_declarations :
    declaredMappings (steps.flatMap Step.declarations) =
      declaredMappings ((steps.filter Step.isExtension).flatMap Step.declarations) := by
  induction steps with
  | nil => rfl
  | cons step rest ih =>
      obtain ⟨first, plain⟩ := List.forall_mem_cons.mp plain
      rw [List.flatMap_cons, declaredMappings_append, ih plain]
      cases step with
      | language id patterns => rfl
      | rule id pattern weight => rfl
      | extension raw id => rfl
      | settings settings => cases first <;> contradiction

end

namespace Draft

def ids (draft : Draft) : List String :=
  draft.languages.map (·.id)

def withExtensions (draft : Draft) (extensions : List (String × String)) : Draft :=
  { draft with extensions }

theorem declares_withExtensions (draft : Draft) (extensions : List (String × String))
    (id : String) : (draft.withExtensions extensions).declares id = draft.declares id := rfl

theorem declare_withExtensions (draft : Draft) (extensions : List (String × String)) (id : String) :
    (draft.withExtensions extensions).declare id =
      (draft.declare id).withExtensions extensions := by
  rw [declare, declare, declares_withExtensions]
  by_cases known : draft.declares id = true
  · rw [if_pos known, if_pos known]
  · rw [if_neg known, if_neg known]
    rfl

theorem addLanguage_withExtensions (draft : Draft) (extensions : List (String × String))
    (id : String) (patterns : List String) :
    (draft.withExtensions extensions).addLanguage id patterns =
      (draft.addLanguage id patterns).withExtensions extensions := by
  rw [addLanguage, addLanguage, declares_withExtensions]
  by_cases known : draft.declares id = true
  · rw [if_pos known, if_pos known]
    rfl
  · rw [if_neg known, if_neg known]
    rfl

/-- A declaration that maps an extension leaves the rest alone, and any other leaves the mappings
alone. -/
theorem add_withExtensions (draft : Draft) (extensions : List (String × String))
    (d : Declaration) :
    (draft.withExtensions extensions).add d =
      ((declaringParts [d]).foldl add draft).withExtensions
        (extensions ++ declaredMappings [d]) := by
  cases d with
  | language id patterns =>
      rw [show declaredMappings [.language id patterns] = [] from rfl, List.append_nil]
      exact addLanguage_withExtensions draft extensions id patterns
  | mention id =>
      rw [show declaredMappings [.mention id] = [] from rfl, List.append_nil]
      exact declare_withExtensions draft extensions id
  | rule id pattern weight =>
      rw [show declaredMappings [.rule id pattern weight] = [] from rfl, List.append_nil, add,
        addRule, declare_withExtensions]
      rfl
  | extension raw id => rfl

/-- A run leaves the languages of the declarations that map no extension, and the mappings of the
others. -/
theorem foldl_add_eq (draft : Draft) (declarations : List Declaration) :
    declarations.foldl add draft =
      ((declaringParts declarations).foldl add draft).withExtensions
        (draft.extensions ++ declaredMappings declarations) := by
  -- From the end, where the last declaration finds the two parts that are there already.
  induction declarations using List.reverseRecOn with
  | nil =>
      rw [declaredMappings, List.filterMap_nil, List.append_nil]
      rfl
  | append_singleton declarations d ih =>
      rw [List.foldl_append, ih, List.foldl_cons, List.foldl_nil, add_withExtensions,
        declaringParts_append, List.foldl_append, declaredMappings_append, List.append_assoc]

theorem foldl_add_congr (draft : Draft) {declarations declarations' : List Declaration}
    (sameParts : declaringParts declarations = declaringParts declarations')
    (sameMappings : declaredMappings declarations = declaredMappings declarations') :
    declarations.foldl add draft = declarations'.foldl add draft := by
  rw [foldl_add_eq, sameParts, sameMappings, ← foldl_add_eq]

theorem extensions_foldl_declaringParts (draft : Draft) (declarations : List Declaration) :
    ((declaringParts declarations).foldl add draft).extensions = draft.extensions := by
  rw [foldl_add_eq, declaredMappings_declaringParts, List.append_nil]
  rfl

theorem applyAll_append (draft : Draft) (steps more : List Step) :
    draft.applyAll (steps ++ more) = (draft.applyAll steps).applyAll more :=
  List.foldl_append ..

theorem declares_iff_mem_ids {draft : Draft} {id : String} :
    draft.declares id = true ↔ id ∈ draft.ids := by
  simp [declares, ids]

theorem mem_ids_declare_iff {draft : Draft} {id other : String} :
    other ∈ (draft.declare id).ids ↔ other ∈ draft.ids ∨ other = id := by
  rw [declare]
  by_cases known : draft.declares id = true
  · rw [if_pos known]
    constructor
    · exact Or.inl
    · intro isKnown
      cases isKnown with
      | inl member => exact member
      | inr same => exact same ▸ declares_iff_mem_ids.mp known
  · rw [if_neg known]
    simp [ids]

theorem ids_addRule (draft : Draft) (id pattern : String) (weight : UInt32) :
    (draft.addRule id pattern weight).ids = (draft.declare id).ids := by
  rw [ids, addRule, List.map_map]
  apply List.map_congr_left
  intro language _
  rw [Function.comp_apply]
  split <;> rfl

/-- Rules of a language that is known declare nothing else. -/
theorem mem_ids_rules_iff {draft : Draft} {id other : String} (known : id ∈ draft.ids)
    (rules : List CustomRule) :
    other ∈ ((rules.map fun rule => Declaration.rule id rule.pattern rule.weight).foldl add
      draft).ids ↔ other ∈ draft.ids := by
  induction rules generalizing draft with
  | nil => rfl
  | cons rule rest ih =>
      have declared : ∀ {x},
          x ∈ (draft.addRule id rule.pattern rule.weight).ids ↔ x ∈ draft.ids := by
        intro x
        rw [ids_addRule, mem_ids_declare_iff]
        constructor
        · intro isKnown
          cases isKnown with
          | inl member => exact member
          | inr same => exact same ▸ known
        · exact Or.inl
      rw [List.map_cons, List.foldl_cons, add, ih (declared.mpr known), declared]

section

variable {draft : Draft} {known : List String} (same : ∀ id, id ∈ known ↔ id ∈ draft.ids)

include same

theorem applyAll_custom_declaringSteps (custom : CustomLanguage) :
    draft.applyAll (custom.declaringSteps known) =
      (declaringParts custom.declarations).foldl add draft := by
  have rules (draft : Draft) : draft.applyAll
      (custom.rules.map fun rule => .rule (trim custom.name) rule.pattern rule.weight) =
        (custom.rules.map fun rule =>
          Declaration.rule (trim custom.name) rule.pattern rule.weight).foldl add draft := by
    rw [applyAll, List.foldl_map, List.foldl_map]
    rfl
  rw [custom.declaringParts_declarations, List.foldl_cons, CustomLanguage.declaringSteps,
    applyAll_append, rules, add, declare]
  by_cases isKnown : trim custom.name ∈ known
  · rw [if_pos isKnown, if_pos (declares_iff_mem_ids.mpr ((same _).mp isKnown))]
    rfl
  · have isNew : ¬ draft.declares (trim custom.name) = true := by
      rw [declares_iff_mem_ids, ← same]
      exact isKnown
    rw [if_neg isKnown, if_neg isNew, applyAll, List.foldl_cons, List.foldl_nil, apply, addLanguage,
      if_neg isNew]
    rfl

theorem mem_ids_custom_iff (custom : CustomLanguage) (id : String) :
    id ∈ known ++ [trim custom.name] ↔
      id ∈ ((declaringParts custom.declarations).foldl add draft).ids := by
  have declared : trim custom.name ∈ (draft.declare (trim custom.name)).ids :=
    mem_ids_declare_iff.mpr (Or.inr rfl)
  rw [custom.declaringParts_declarations, List.foldl_cons, add, mem_ids_rules_iff declared,
    mem_ids_declare_iff, List.mem_append, List.mem_singleton, same]

theorem applyAll_declaringSteps (customs : List CustomLanguage) :
    draft.applyAll (declaringSteps known customs) =
      (declaringParts (customs.flatMap CustomLanguage.declarations)).foldl add draft := by
  induction customs generalizing draft known with
  | nil => rfl
  | cons custom rest ih =>
      rw [declaringSteps, applyAll_append, applyAll_custom_declaringSteps same,
        ih (mem_ids_custom_iff same custom), List.flatMap_cons, declaringParts_append,
        List.foldl_append]

end

theorem applyAll_extensionSteps (draft : Draft) (mappings : List (String × String)) :
    draft.applyAll (mappings.map fun (raw, id) => .extension raw id) =
      draft.withExtensions (draft.extensions ++ mappings) := by
  induction mappings generalizing draft with
  | nil =>
      rw [List.append_nil]
      rfl
  | cons mapping rest ih =>
      rw [List.map_cons, applyAll, List.foldl_cons, ← applyAll, ih, apply, addExtension,
        List.append_assoc]
      rfl

/-- A draft does the same with settings as with the steps that they stand for. -/
theorem apply_settings (draft : Draft) (settings : Settings) :
    draft.apply (.settings settings) = draft.applyAll (settings.steps draft.ids) := by
  rw [apply_eq, foldl_add_eq, ← Settings.declarations, settings.declaredMappings_declarations,
    settings.declaringParts_declarations, Settings.steps, applyAll_append,
    applyAll_declaringSteps fun _ => Iff.rfl, applyAll_extensionSteps,
    extensions_foldl_declaringParts]

theorem applyAll_congr (draft : Draft) {steps steps' : List Step}
    (sameParts : declaringParts (steps.flatMap Step.declarations) =
      declaringParts (steps'.flatMap Step.declarations))
    (sameMappings : declaredMappings (steps.flatMap Step.declarations) =
      declaredMappings (steps'.flatMap Step.declarations)) :
    draft.applyAll steps = draft.applyAll steps' := by
  rw [applyAll_eq, applyAll_eq]
  exact foldl_add_congr draft sameParts sameMappings

/-- Steps build the same registry, or fail in the same way, however those that declare languages and
rules stand between those that map extensions, also if settings are among them and count by their
parts. Settings may be replaced by the steps that they stand for wherever they are. -/
theorem build_interleaved (draft : Draft) :
    (∀ steps steps' : List Step,
      (∀ step ∈ steps ++ steps', step.isDeclaring = true ∨ step.isExtension = true) →
      steps.filter Step.isDeclaring = steps'.filter Step.isDeclaring →
      steps.filter Step.isExtension = steps'.filter Step.isExtension →
      (draft.applyAll steps).build = (draft.applyAll steps').build) ∧
    (∀ steps steps' : List Step,
      declaringParts (steps.flatMap Step.declarations) =
        declaringParts (steps'.flatMap Step.declarations) →
      declaredMappings (steps.flatMap Step.declarations) =
        declaredMappings (steps'.flatMap Step.declarations) →
      (draft.applyAll steps).build = (draft.applyAll steps').build) ∧
    ∀ before settings after,
      (draft.applyAll (before ++ .settings settings :: after)).build =
        (draft.applyAll
          (before ++ settings.steps (draft.applyAll before).ids ++ after)).build := by
  refine ⟨?_, ?_, ?_⟩
  · intro steps steps' plain sameDeclaring sameExtension
    obtain ⟨plain, plain'⟩ := List.forall_mem_append.mp plain
    apply congrArg build
    apply applyAll_congr
    · rw [declaringParts_flatMap_declarations plain, sameDeclaring,
        declaringParts_flatMap_declarations plain']
    · rw [declaredMappings_flatMap_declarations plain, sameExtension,
        declaredMappings_flatMap_declarations plain']
  · intro steps steps' sameParts sameMappings
    exact congrArg build (applyAll_congr draft sameParts sameMappings)
  · intro before settings after
    apply congrArg build
    rw [applyAll_append, applyAll_append, applyAll_append, ← apply_settings]
    rfl

/-- An extension goes to a language that is declared later, and then to another. -/
def interleavedSteps : List Step :=
  [.extension "z" "zig", .language "zig" ["comptime"], .extension ".Z" "rust", .rule "rust" "fn" 2]

def sortedSteps : List Step :=
  [.language "zig" ["comptime"], .rule "rust" "fn" 2, .extension "z" "zig", .extension ".Z" "rust"]

def zigSettings : Settings where
  languages := [⟨" zig ", [⟨"errdefer", 3⟩], ["zon"]⟩, ⟨"zag", [], ["zag"]⟩]
  extensions := [(".q", "zig")]

theorem build_interleaved_zig :
    (∃ registry, (({} : Draft).applyAll interleavedSteps).build = .ok registry ∧
      registry.extensions = [(".z", "rust")]) ∧
    (∀ step ∈ interleavedSteps ++ sortedSteps,
      step.isDeclaring = true ∨ step.isExtension = true) ∧
    interleavedSteps.filter Step.isDeclaring = sortedSteps.filter Step.isDeclaring ∧
    interleavedSteps.filter Step.isExtension = sortedSteps.filter Step.isExtension ∧
    (({} : Draft).applyAll interleavedSteps).build = (({} : Draft).applyAll sortedSteps).build ∧
    (({} : Draft).applyAll (.settings zigSettings :: interleavedSteps)).build =
      .error (.duplicateLanguage "zig") ∧
    (({} : Draft).applyAll (.settings zigSettings :: sortedSteps)).build =
      .error (.duplicateLanguage "zig") ∧
    (({} : Draft).applyAll (zigSettings.steps [] ++ interleavedSteps)).build =
      .error (.duplicateLanguage "zig") := by
  have plain : ∀ step ∈ interleavedSteps ++ sortedSteps,
      step.isDeclaring = true ∨ step.isExtension = true := by decide
  obtain ⟨apart, inParts, replaced⟩ := build_interleaved {}
  have fails : (({} : Draft).applyAll (.settings zigSettings :: interleavedSteps)).build =
      .error (.duplicateLanguage "zig") :=
    failure?_eq_some_iff.mp (by decide +kernel)
  refine ⟨exists_of_check (by decide +kernel), plain, rfl, rfl, apart _ _ plain rfl rfl, fails,
    ?_, ?_⟩
  · rw [inParts _ (.settings zigSettings :: interleavedSteps) (by decide +kernel)
      (by decide +kernel)]
    exact fails
  · rw [← fails]
    exact (replaced [] zigSettings interleavedSteps).symm

end Draft

end LanguageDetection
