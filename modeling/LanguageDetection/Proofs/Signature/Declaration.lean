import LanguageDetection.Signature.BuiltIn
import Mathlib.Data.List.Induction
import Mathlib.Data.List.Nodup

/-!
What drafts are made of: the declarations of a run of steps, read off as a whole, and the draft that
the run leaves.
-/

namespace LanguageDetection

open LanguageDetection.Text

/-- The smallest parts of steps. -/
inductive Declaration
  | language (id : String) (patterns : List String)
  /-- A language that settings name, without anything else yet. -/
  | mention (id : String)
  | rule (id pattern : String) (weight : UInt32)
  | extension (raw id : String)
  deriving Repr, DecidableEq

namespace Declaration

def id? : Declaration → Option String
  | .language id _ => some id
  | .mention id => some id
  | .rule id _ _ => some id
  | .extension _ _ => none

def rulesFor (id : String) : Declaration → List (String × UInt32)
  | .language other patterns => if other = id then patterns.map fun p => (p, 1) else []
  | .rule other pattern weight => if other = id then [(pattern, weight)] else []
  | .mention _ | .extension _ _ => []

def mapping? : Declaration → Option (String × String)
  | .extension raw id => some (raw, id)
  | _ => none

/-- The language that a declaration repeats if it is known. -/
def again? (known : List String) : Declaration → Option String
  | .language id _ => if id ∈ known then some id else none
  | _ => none

end Declaration

def CustomLanguage.declarations (custom : CustomLanguage) : List Declaration :=
  .mention (trim custom.name)
    :: custom.rules.map (fun rule => .rule (trim custom.name) rule.pattern rule.weight)
    ++ custom.extensions.map (fun raw => .extension raw (trim custom.name))

def Step.declarations : Step → List Declaration
  | .language id patterns => [.language id patterns]
  | .rule id pattern weight => [.rule id pattern weight]
  | .extension raw id => [.extension raw id]
  | .settings added =>
      added.languages.flatMap CustomLanguage.declarations
        ++ added.extensions.map fun (raw, id) => .extension raw id

def declaredIds (declarations : List Declaration) : List String :=
  (declarations.filterMap Declaration.id?).eraseDups

def declaredRules (declarations : List Declaration) (id : String) : List (String × UInt32) :=
  declarations.flatMap (Declaration.rulesFor id)

def declaredMappings (declarations : List Declaration) : List (String × String) :=
  declarations.filterMap Declaration.mapping?

def repeatedIdsAfter (known : List String) : List Declaration → List String
  | [] => []
  | declaration :: rest =>
      (declaration.again? known).toList ++ repeatedIdsAfter (known ++ declaration.id?.toList) rest

/-- The languages declared when they had been declared before. -/
def repeatedIds (declarations : List Declaration) : List String :=
  repeatedIdsAfter [] declarations

@[simp] theorem mem_declaredIds {declarations : List Declaration} {id : String} :
    id ∈ declaredIds declarations ↔ ∃ d ∈ declarations, d.id? = some id := by
  rw [declaredIds, List.mem_eraseDups, List.mem_filterMap]

theorem declaredIds_concat (declarations : List Declaration) (d : Declaration) :
    declaredIds (declarations ++ [d]) =
      declaredIds declarations ++ (d.id?.filter (· ∉ declaredIds declarations)).toList := by
  rw [declaredIds, List.filterMap_append, List.eraseDups_append]
  cases named : d.id? with
  | none => simp [named, declaredIds]
  | some id =>
      rw [List.filterMap_cons_some named, List.filterMap_nil, declaredIds, Option.filter_some]
      congr 1
      by_cases known : id ∈ declarations.filterMap Declaration.id?
      · rw [List.removeAll, List.filter_cons_of_neg (by simpa using known)]
        simp only [List.mem_eraseDups, known, not_true_eq_false, decide_false, Bool.false_eq_true,
          if_false]
        rfl
      · rw [List.removeAll, List.filter_cons_of_pos (by simpa using known)]
        simp only [List.mem_eraseDups, known, not_false_eq_true, decide_true, if_true]
        rfl

theorem declaredIds_concat_of_none {declarations : List Declaration} {d : Declaration}
    (unnamed : d.id? = none) : declaredIds (declarations ++ [d]) = declaredIds declarations := by
  rw [declaredIds_concat, unnamed, Option.filter_none, Option.toList_none, List.append_nil]

theorem declaredIds_concat_of_mem {declarations : List Declaration} {d : Declaration} {id : String}
    (named : d.id? = some id) (known : id ∈ declaredIds declarations) :
    declaredIds (declarations ++ [d]) = declaredIds declarations := by
  rw [declaredIds_concat, named, Option.filter_some, if_neg (by simpa using known),
    Option.toList_none, List.append_nil]

theorem declaredIds_concat_of_not_mem {declarations : List Declaration} {d : Declaration}
    {id : String} (named : d.id? = some id) (unknown : id ∉ declaredIds declarations) :
    declaredIds (declarations ++ [d]) = declaredIds declarations ++ [id] := by
  rw [declaredIds_concat, named, Option.filter_some, if_pos (by simpa using unknown),
    Option.toList_some]

theorem nodup_declaredIds (declarations : List Declaration) : (declaredIds declarations).Nodup := by
  -- From the end, since it is the declarations before one that make it a repetition.
  induction declarations using List.reverseRecOn with
  | nil => exact List.nodup_nil
  | append_singleton declarations d ih =>
      rw [declaredIds_concat]
      cases isNew : d.id?.filter (· ∉ declaredIds declarations) with
      | none => simpa using ih
      | some id =>
          have unknown : id ∉ declaredIds declarations := by
            simpa using (Option.filter_eq_some_iff.mp isNew).2
          refine List.nodup_append.mpr ⟨ih, List.nodup_singleton id, ?_⟩
          rintro other isKnown _ member rfl
          rw [List.mem_singleton.mp member] at isKnown
          exact unknown isKnown

theorem declaredRules_concat (declarations : List Declaration) (d : Declaration) (id : String) :
    declaredRules (declarations ++ [d]) id = declaredRules declarations id ++ d.rulesFor id := by
  simp [declaredRules]

theorem declaredMappings_concat (declarations : List Declaration) (d : Declaration) :
    declaredMappings (declarations ++ [d]) =
      declaredMappings declarations ++ d.mapping?.toList := by
  rw [declaredMappings, List.filterMap_append]
  cases kind : d.mapping? <;> simp [kind, declaredMappings]

private theorem again?_congr {known other : List String} (same : ∀ id, id ∈ known ↔ id ∈ other)
    (d : Declaration) : d.again? known = d.again? other := by
  cases d <;> simp [Declaration.again?, same]

private theorem repeatedIdsAfter_concat (known : List String) (declarations : List Declaration)
    (d : Declaration) :
    repeatedIdsAfter known (declarations ++ [d]) =
      repeatedIdsAfter known declarations
        ++ (d.again? (known ++ declarations.filterMap Declaration.id?)).toList := by
  induction declarations generalizing known with
  | nil => simp [repeatedIdsAfter]
  | cons first rest ih =>
      have named : known ++ first.id?.toList ++ rest.filterMap Declaration.id? =
          known ++ (first :: rest).filterMap Declaration.id? := by
        cases named : first.id? <;> simp [named]
      rw [List.cons_append, repeatedIdsAfter, repeatedIdsAfter, ih, named, List.append_assoc]

theorem repeatedIds_concat (declarations : List Declaration) (d : Declaration) :
    repeatedIds (declarations ++ [d]) =
      repeatedIds declarations ++ (d.again? (declaredIds declarations)).toList := by
  rw [repeatedIds, repeatedIdsAfter_concat, List.nil_append]
  congr 2
  apply again?_congr
  intro id
  rw [declaredIds, List.mem_eraseDups]

theorem mem_declaredIds_of_mem_declaredRules {declarations : List Declaration} {id : String}
    {rule : String × UInt32} (member : rule ∈ declaredRules declarations id) :
    id ∈ declaredIds declarations := by
  obtain ⟨d, inRun, given⟩ := List.mem_flatMap.mp member
  refine mem_declaredIds.mpr ⟨d, inRun, ?_⟩
  cases d with
  | language other patterns =>
      simp only [Declaration.rulesFor] at given
      split at given
      · rename_i equal
        exact congrArg some equal
      · contradiction
  | rule other pattern weight =>
      simp only [Declaration.rulesFor] at given
      split at given
      · rename_i equal
        exact congrArg some equal
      · contradiction
  | mention other => contradiction
  | extension raw other => contradiction

theorem declaredRules_eq_nil {declarations : List Declaration} {id : String}
    (undeclared : id ∉ declaredIds declarations) : declaredRules declarations id = [] := by
  refine List.eq_nil_iff_forall_not_mem.mpr ?_
  intro rule member
  exact undeclared (mem_declaredIds_of_mem_declaredRules member)

namespace Draft

def add (draft : Draft) : Declaration → Draft
  | .language id patterns => draft.addLanguage id patterns
  | .mention id => draft.declare id
  | .rule id pattern weight => draft.addRule id pattern weight
  | .extension raw id => draft.addExtension raw id

theorem addCustomLanguage_eq (draft : Draft) (custom : CustomLanguage) :
    draft.addCustomLanguage custom = custom.declarations.foldl add draft := by
  simp [addCustomLanguage, CustomLanguage.declarations, List.foldl_append, List.foldl_map, add]

theorem apply_eq (draft : Draft) (step : Step) :
    draft.apply step = step.declarations.foldl add draft := by
  cases step with
  | language id patterns => rfl
  | rule id pattern weight => rfl
  | extension raw id => rfl
  | settings settings =>
      have custom : settings.languages.foldl addCustomLanguage draft =
          (settings.languages.flatMap CustomLanguage.declarations).foldl add draft := by
        rw [List.foldl_flatMap]
        congr 1
        funext draft custom
        exact addCustomLanguage_eq draft custom
      rw [apply, addSettings, custom, Step.declarations, List.foldl_append, List.foldl_map]
      rfl

theorem applyAll_eq (draft : Draft) (steps : List Step) :
    draft.applyAll steps = (steps.flatMap Step.declarations).foldl add draft := by
  rw [applyAll, List.foldl_flatMap]
  congr 1
  funext draft step
  exact apply_eq draft step

/-- The draft that a run of declarations leaves. The rules are as declared unless a language was
declared again, and then no registry is built. -/
structure Describes (draft : Draft) (declarations : List Declaration) : Prop where
  ids : draft.languages.map (·.id) = declaredIds declarations
  rules : repeatedIds declarations = [] →
    ∀ language ∈ draft.languages, language.rules = declaredRules declarations language.id
  extensions : draft.extensions = declaredMappings declarations
  duplicates : draft.duplicates = repeatedIds declarations

section Describes

variable {draft : Draft} {declarations : List Declaration}

theorem describes_nil : ({} : Draft).Describes [] where
  ids := rfl
  rules := fun _ _ member => absurd member List.not_mem_nil
  extensions := rfl
  duplicates := rfl

theorem Describes.declares_iff (describes : draft.Describes declarations) (id : String) :
    draft.declares id = true ↔ id ∈ declaredIds declarations := by
  rw [← describes.ids, declares]
  simp

theorem Describes.declare (describes : draft.Describes declarations) (id : String) :
    (draft.declare id).Describes (declarations ++ [.mention id]) := by
  have noRules : ∀ other, declaredRules (declarations ++ [.mention id]) other =
      declaredRules declarations other := by
    intro other
    rw [declaredRules_concat]
    exact List.append_nil _
  have noRepeat : repeatedIds (declarations ++ [.mention id]) = repeatedIds declarations := by
    rw [repeatedIds_concat]
    exact List.append_nil _
  have noMapping : declaredMappings (declarations ++ [.mention id]) =
      declaredMappings declarations := by
    rw [declaredMappings_concat]
    exact List.append_nil _
  have known_iff := describes.declares_iff id
  unfold Draft.declare
  split
  · rename_i known
    constructor
    · rw [describes.ids, declaredIds_concat_of_mem rfl (known_iff.mp known)]
    · rw [noRepeat]
      intro none language member
      rw [noRules, describes.rules none language member]
    · rw [noMapping, describes.extensions]
    · rw [noRepeat, describes.duplicates]
  · rename_i unknown
    have isNew : id ∉ declaredIds declarations := fun member => unknown (known_iff.mpr member)
    constructor
    · rw [List.map_append, describes.ids, declaredIds_concat_of_not_mem rfl isNew]
      rfl
    · rw [noRepeat]
      intro none language member
      rw [noRules]
      rcases List.mem_append.mp member with old | new
      · exact describes.rules none language old
      · rw [List.mem_singleton.mp new]
        exact (declaredRules_eq_nil isNew).symm
    · rw [noMapping, describes.extensions]
    · rw [noRepeat, describes.duplicates]

theorem Describes.addLanguage (describes : draft.Describes declarations) (id : String)
    (patterns : List String) :
    (draft.addLanguage id patterns).Describes (declarations ++ [.language id patterns]) := by
  have noMapping : declaredMappings (declarations ++ [.language id patterns]) =
      declaredMappings declarations := by
    rw [declaredMappings_concat]
    exact List.append_nil _
  have known_iff := describes.declares_iff id
  unfold Draft.addLanguage
  split
  · rename_i known
    have isKnown := known_iff.mp known
    have repeated : repeatedIds (declarations ++ [.language id patterns]) =
        repeatedIds declarations ++ [id] := by
      rw [repeatedIds_concat, Declaration.again?, if_pos isKnown, Option.toList_some]
    constructor
    · rw [describes.ids, declaredIds_concat_of_mem rfl isKnown]
    · rw [repeated]
      intro none
      simp at none
    · rw [noMapping, describes.extensions]
    · rw [repeated, describes.duplicates]
  · rename_i unknown
    have isNew : id ∉ declaredIds declarations := fun member => unknown (known_iff.mpr member)
    have noRepeat : repeatedIds (declarations ++ [.language id patterns]) =
        repeatedIds declarations := by
      rw [repeatedIds_concat, Declaration.again?, if_neg isNew, Option.toList_none,
        List.append_nil]
    constructor
    · rw [List.map_append, describes.ids, declaredIds_concat_of_not_mem rfl isNew]
      rfl
    · rw [noRepeat]
      intro none language member
      rw [declaredRules_concat, Declaration.rulesFor]
      rcases List.mem_append.mp member with old | new
      · have isOld : language.id ∈ declaredIds declarations := by
          rw [← describes.ids]
          exact List.mem_map_of_mem old
        have different : id ≠ language.id := fun equal => isNew (equal ▸ isOld)
        rw [if_neg different, List.append_nil]
        exact describes.rules none language old
      · rw [List.mem_singleton.mp new, if_pos rfl, declaredRules_eq_nil isNew, List.nil_append]
    · rw [noMapping, describes.extensions]
    · rw [noRepeat, describes.duplicates]

theorem Describes.addRule (describes : draft.Describes declarations) (id pattern : String)
    (weight : UInt32) :
    (draft.addRule id pattern weight).Describes (declarations ++ [.rule id pattern weight]) := by
  -- A rule is a mention of its language, and what it adds to the rules.
  have mentioned := describes.declare id
  have sameIds : declaredIds (declarations ++ [.rule id pattern weight]) =
      declaredIds (declarations ++ [.mention id]) := by
    rw [declaredIds_concat, declaredIds_concat]
    rfl
  have sameRepeats : repeatedIds (declarations ++ [.rule id pattern weight]) =
      repeatedIds (declarations ++ [.mention id]) := by
    rw [repeatedIds_concat, repeatedIds_concat]
    rfl
  have sameMappings : declaredMappings (declarations ++ [.rule id pattern weight]) =
      declaredMappings (declarations ++ [.mention id]) := by
    rw [declaredMappings_concat, declaredMappings_concat]
    rfl
  constructor
  · rw [sameIds, ← mentioned.ids, Draft.addRule, List.map_map]
    refine List.map_congr_left ?_
    intro language _
    rw [Function.comp_apply]
    split <;> rfl
  · rw [sameRepeats]
    intro none language member
    obtain ⟨before, inDraft, rfl⟩ := List.mem_map.mp member
    have rules := mentioned.rules none before inDraft
    rw [declaredRules_concat, Declaration.rulesFor, List.append_nil] at rules
    rw [declaredRules_concat, Declaration.rulesFor]
    by_cases same : before.id = id
    · simp [same, rules]
    · simp [same, Ne.symm same, rules]
  · rw [sameMappings, ← mentioned.extensions]
    rfl
  · rw [sameRepeats, ← mentioned.duplicates]
    rfl

theorem Describes.addExtension (describes : draft.Describes declarations) (raw id : String) :
    (draft.addExtension raw id).Describes (declarations ++ [.extension raw id]) := by
  have noRepeat : repeatedIds (declarations ++ [.extension raw id]) =
      repeatedIds declarations := by
    rw [repeatedIds_concat]
    exact List.append_nil _
  constructor
  · rw [declaredIds_concat_of_none rfl, ← describes.ids]
    rfl
  · rw [noRepeat]
    intro none language member
    rw [declaredRules_concat, describes.rules none language member]
    exact (List.append_nil _).symm
  · rw [declaredMappings_concat, ← describes.extensions]
    rfl
  · rw [noRepeat, ← describes.duplicates]
    rfl

theorem Describes.add (describes : draft.Describes declarations) (d : Declaration) :
    (draft.add d).Describes (declarations ++ [d]) := by
  cases d with
  | language id patterns => exact describes.addLanguage id patterns
  | mention id => exact describes.declare id
  | rule id pattern weight => exact describes.addRule id pattern weight
  | extension raw id => exact describes.addExtension raw id

theorem Describes.foldl_add (describes : draft.Describes declarations)
    (more : List Declaration) : (more.foldl Draft.add draft).Describes (declarations ++ more) := by
  induction more generalizing draft declarations with
  | nil => rwa [List.append_nil]
  | cons d rest ih =>
      have next := ih (describes.add d)
      rwa [List.append_assoc] at next

end Describes

end Draft

/-- What steps are added to: nothing, or a built-in table. -/
inductive Start
  | empty
  | builtIn (profile : Profile)
  deriving Repr, DecidableEq

def Start.steps : Start → List Step
  | .empty => []
  | .builtIn profile => (BuiltIn.ofProfile profile).steps

def Start.draft : Start → Draft
  | .empty => {}
  | .builtIn profile => (BuiltIn.ofProfile profile).draft

def Draft.ofSteps (start : Start) (steps : List Step) : Draft :=
  start.draft.applyAll steps

/-- All that a run of steps declares, the table that it starts from included. -/
def Start.declarations (start : Start) (steps : List Step) : List Declaration :=
  (start.steps ++ steps).flatMap Step.declarations

theorem Draft.describes_ofSteps (start : Start) (steps : List Step) :
    (ofSteps start steps).Describes (start.declarations steps) := by
  have split : ofSteps start steps = (start.declarations steps).foldl add {} := by
    rw [Start.declarations, ← applyAll_eq, applyAll, List.foldl_append]
    cases start <;> rfl
  rw [split]
  exact describes_nil.foldl_add _

end LanguageDetection
