import LanguageDetection.Proofs.Signature.Invariant
import Mathlib.Data.List.Find

/-!
Which drafts are refused, and for which reason: read off the declarations alone, without building
anything. A draft that is not refused becomes a registry of just what was declared.
-/

namespace LanguageDetection

open LanguageDetection.Pattern

def ruleRejection? (id : String) (rule : String × UInt32) : Option RegistryError :=
  if rule.2 = 0 then some (.zeroWeight id rule.1)
  else (failure? (Searcher.ofPattern rule.1)).map (.invalidPattern id rule.1)

def languageRejection? (id : String) (rules : List (String × UInt32)) : Option RegistryError :=
  if id = "" then some .emptyLanguageId else rules.findSome? (ruleRejection? id)

def mappingRejection? (ids : List String) (mapping : String × String) : Option RegistryError :=
  if Extension.isMalformed mapping.1 then some (.malformedExtension mapping.1)
  else if mapping.2 ∈ ids then none
  else (Extension.normalize? mapping.1).map (.undeclaredLanguage · mapping.2)

/-- The language that an extension in its kept form is mapped to in the end. -/
def ownerOf? (declarations : List Declaration) (extension : String) : Option String :=
  ((declaredMappings declarations).reverse.find? fun mapping =>
    Extension.normalize? mapping.1 == some extension).map (·.2)

def owners (declarations : List Declaration) : List String :=
  (declaredMappings declarations).filterMap fun mapping =>
    (Extension.normalize? mapping.1).bind (ownerOf? declarations)

def isUnreachable (declarations : List Declaration) (id : String) : Bool :=
  (declaredRules declarations id).isEmpty && !(owners declarations).contains id

/-- Why what is declared is refused, if it is: the first reason that applies. -/
def rejection? (declarations : List Declaration) : Option RegistryError :=
  let ids := declaredIds declarations
  if ids = [] then some .empty
  else
    ((repeatedIds declarations).head?.map .duplicateLanguage).or <|
    (ids.findSome? fun id => languageRejection? id (declaredRules declarations id)).or <|
    ((declaredMappings declarations).findSome? (mappingRejection? ids)).or <|
    (ids.find? (isUnreachable declarations)).map .unreachable

theorem mem_owners_iff {declarations : List Declaration} {id : String} :
    id ∈ owners declarations ↔ ∃ extension, ownerOf? declarations extension = some id := by
  rw [owners, List.mem_filterMap]
  constructor
  · rintro ⟨mapping, -, owned⟩
    obtain ⟨extension, -, owner⟩ := Option.bind_eq_some_iff.mp owned
    exact ⟨extension, owner⟩
  · rintro ⟨extension, owner⟩
    obtain ⟨mapping, found, -⟩ := Option.map_eq_some_iff.mp owner
    have kept : Extension.normalize? mapping.1 = some extension := by
      simpa using List.find?_some found
    refine ⟨mapping, List.mem_reverse.mp (List.mem_of_find?_eq_some found), ?_⟩
    rw [kept, Option.bind_some, owner]

namespace Draft

theorem failure?_buildRule (id : String) (rule : String × UInt32) :
    failure? (buildRule id rule) = ruleRejection? id rule := by
  unfold buildRule ruleRejection?
  split
  · rfl
  · rw [Rule.ofPattern]
    cases Searcher.ofPattern rule.1 <;> rfl

theorem failure?_buildLanguage (language : DraftLanguage) :
    failure? (buildLanguage language) = languageRejection? language.id language.rules := by
  have rules := failure?_mapM (buildRule language.id) language.rules
  simp only [failure?_buildRule] at rules
  unfold buildLanguage languageRejection?
  rw [← rules]
  simp only [String.isEmpty_iff]
  split
  · rfl
  · cases language.rules.mapM (buildRule language.id) <;> rfl

theorem failure?_buildExtension (ids : List String) (mapping : String × String) :
    failure? (buildExtension ids mapping) = mappingRejection? ids mapping := by
  unfold buildExtension mappingRejection?
  rw [Extension.filter_isWellFormed]
  cases malformed : Extension.isMalformed mapping.1 with
  | true => rfl
  | false =>
      obtain ⟨extension, kept⟩ := Extension.exists_normalize?_of_isMalformed_eq_false malformed
      rw [kept]
      by_cases declared : mapping.2 ∈ ids
      · simp [declared, failure?]
      · simp [declared, failure?]

theorem Describes.languages_eq {draft : Draft} {declarations : List Declaration}
    (describes : draft.Describes declarations) (noRepeats : repeatedIds declarations = []) :
    draft.languages =
      (declaredIds declarations).map fun id => ⟨id, declaredRules declarations id⟩ := by
  rw [← describes.ids, List.map_map]
  conv => lhs; rw [← List.map_id draft.languages]
  apply List.map_congr_left
  intro language member
  rw [Function.comp_apply, ← describes.rules noRepeats language member]
  rfl

theorem find?_of_buildsMapping {declarations : List Declaration} {ids : List String}
    {pairs : List (String × String)}
    (built : List.Forall₂ (BuildsMapping ids) (declaredMappings declarations) pairs)
    (extension : String) :
    Dictionary.find? (.ofList pairs) extension = ownerOf? declarations extension := by
  -- Both look for the extension from the last mapping back.
  have reversed := List.forall₂_reverse_iff.mpr built
  rw [Dictionary.find?_ofList, ownerOf?]
  generalize pairs.reverse = latestPairs at reversed ⊢
  generalize (declaredMappings declarations).reverse = latest at reversed ⊢
  induction reversed with
  | nil => rfl
  | @cons mapping pair _ _ first _ ih =>
      obtain ⟨key, id⟩ := pair
      rw [List.lookup_cons, List.find?_cons, first.kept]
      by_cases same : extension = key
      · subst same
        simpa using first.language_eq
      · have differs : (some key == some extension) = false := by simpa using Ne.symm same
        rw [beq_eq_false_iff_ne.mpr same, differs]
        exact ih

theorem not_isReachable_eq {declarations : List Declaration} {extensions : Dictionary String}
    (ascending : extensions.Ascending)
    (owned : ∀ extension, extensions.find? extension = ownerOf? declarations extension)
    {language : Language} {drafted : DraftLanguage} (built : BuildsLanguage drafted language)
    (rules : drafted.rules = declaredRules declarations drafted.id) :
    (!isReachable extensions language) = isUnreachable declarations language.id := by
  have noRules : language.rules.isEmpty = (declaredRules declarations language.id).isEmpty := by
    have lengths := built.rules.length_eq
    rw [built.id_eq, ← rules, Bool.eq_iff_iff, List.isEmpty_iff_length_eq_zero,
      List.isEmpty_iff_length_eq_zero, lengths]
  have owner : extensions.any (·.2 == language.id) =
      (owners declarations).contains language.id := by
    rw [Bool.eq_iff_iff, List.contains_iff_mem, mem_owners_iff, List.any_eq_true]
    constructor
    · rintro ⟨⟨extension, id⟩, member, same⟩
      obtain rfl := beq_iff_eq.mp same
      exact ⟨extension, by rw [← owned, (ascending.mem_iff _ _).mp member]⟩
    · rintro ⟨extension, isOwner⟩
      rw [← owned] at isOwner
      exact ⟨(extension, language.id), (ascending.mem_iff _ _).mpr isOwner, beq_self_eq_true _⟩
  rw [isReachable, isUnreachable, noRules, owner, Bool.not_or, Bool.not_not]

theorem Describes.map_find?_not_isReachable {draft : Draft} {declarations : List Declaration}
    (describes : draft.Describes declarations) (noRepeats : repeatedIds declarations = [])
    {languages : List Language} {ids : List String} {pairs : List (String × String)}
    (languagesBuilt : List.Forall₂ BuildsLanguage draft.languages languages)
    (pairsBuilt : List.Forall₂ (BuildsMapping ids) (declaredMappings declarations) pairs) :
    (languages.find? fun language => !isReachable (.ofList pairs) language).map (·.id) =
      (declaredIds declarations).find? (isUnreachable declarations) := by
  rw [← describes.ids, ← map_id_eq_of_buildsLanguage languagesBuilt, List.find?_map]
  congr 1
  apply List.find?_congr
  intro language member
  obtain ⟨drafted, inDraft, built⟩ := exists_of_mem_right languagesBuilt member
  exact not_isReachable_eq (Dictionary.ascending_ofList pairs) (find?_of_buildsMapping pairsBuilt)
    built (describes.rules noRepeats drafted inDraft)

theorem Describes.failure?_build {draft : Draft} {declarations : List Declaration}
    (describes : draft.Describes declarations) :
    failure? draft.build = rejection? declarations := by
  have noIds : draft.languages.isEmpty = true ↔ declaredIds declarations = [] := by
    rw [List.isEmpty_iff, ← describes.ids, List.map_eq_nil_iff]
  unfold build rejection?
  split
  · rename_i empty
    rw [if_pos (noIds.mp empty)]
    rfl
  · rename_i nonempty
    rw [if_neg (fun none => nonempty (noIds.mpr none)), describes.duplicates]
    cases repeats : repeatedIds declarations with
    | cons id rest => rfl
    | nil =>
        -- From here on the draft has the rules just as they are declared.
        rw [List.head?_nil, Option.map_none, Option.none_or]
        have drafted := describes.languages_eq repeats
        have languageFailure : failure? (draft.languages.mapM buildLanguage) =
            (declaredIds declarations).findSome? fun id =>
              languageRejection? id (declaredRules declarations id) := by
          rw [failure?_mapM, drafted, List.findSome?_map]
          simp only [Function.comp_def, failure?_buildLanguage]
        rw [← languageFailure]
        cases languagesBuilt : draft.languages.mapM buildLanguage with
        | error e => rfl
        | ok languages =>
            simp only [mapM_eq_ok_iff, buildsLanguage_iff] at languagesBuilt
            have ids : languages.map (·.id) = declaredIds declarations := by
              rw [map_id_eq_of_buildsLanguage languagesBuilt, describes.ids]
            have mappingFailure : failure? (draft.extensions.mapM
                (buildExtension (languages.map (·.id)))) =
                (declaredMappings declarations).findSome?
                  (mappingRejection? (declaredIds declarations)) := by
              rw [failure?_mapM, ids, describes.extensions]
              simp only [failure?_buildExtension]
            rw [← mappingFailure]
            -- What is left after the languages are built.
            change failure? (buildExtensions _ _ >>= _) = _
            unfold buildExtensions
            cases pairsBuilt : draft.extensions.mapM (buildExtension (languages.map (·.id))) with
            | error e => rfl
            | ok pairs =>
                simp only [mapM_eq_ok_iff, buildsMapping_iff, describes.extensions] at pairsBuilt
                rw [← describes.map_find?_not_isReachable repeats languagesBuilt pairsBuilt]
                simp only [bind, Except.bind, pure, Except.pure, failure?, Option.none_or]
                cases languages.find? fun language => !isReachable (.ofList pairs) language <;> rfl

end Draft

/-- A registry of just what is declared. -/
structure Registry.Reflects (registry : Registry) (declarations : List Declaration) : Prop where
  ids : registry.ids = declaredIds declarations
  rules : ∀ language ∈ registry.languages,
    language.rules.map (fun rule => (rule.pattern, rule.weight)) =
      declaredRules declarations language.id
  compiled : ∀ language ∈ registry.languages, ∀ rule ∈ language.rules,
    Searcher.ofPattern rule.pattern = .ok rule.searcher
  owner : ∀ extension, registry.extensions.find? extension = ownerOf? declarations extension

namespace Draft

theorem Builds.reflects {draft : Draft} {registry : Registry} {declarations : List Declaration}
    (builds : draft.Builds registry) (describes : draft.Describes declarations) :
    registry.Reflects declarations := by
  have noRepeats : repeatedIds declarations = [] := by
    rw [← describes.duplicates, builds.noDuplicates]
  constructor
  · rw [builds.ids_eq, describes.ids]
  · intro language member
    obtain ⟨drafted, inDraft, built⟩ := builds.exists_drafted member
    rw [built.id_eq, ← describes.rules noRepeats drafted inDraft]
    have same : List.Forall₂ (· = ·) drafted.rules
        (language.rules.map fun rule => (rule.pattern, rule.weight)) := by
      rw [List.forall₂_map_right_iff]
      exact built.rules.imp fun _ _ built => built.eq.symm
    rw [List.forall₂_eq_eq_eq] at same
    exact same.symm
  · intro language member rule inRules
    obtain ⟨drafted, -, built⟩ := builds.exists_drafted member
    obtain ⟨draftedRule, -, builtRule⟩ := exists_of_mem_right built.rules inRules
    exact builtRule.compiled
  · obtain ⟨pairs, built, equal⟩ := builds.extensions
    rw [describes.extensions] at built
    rw [equal]
    exact find?_of_buildsMapping built

/-- Building after any steps fails exactly if the declarations are refused, and for that reason.
Otherwise it gives a registry of just what is declared. -/
theorem build_ofSteps (start : Start) (steps : List Step) :
    (∀ error, (ofSteps start steps).build = .error error ↔
      rejection? (start.declarations steps) = some error) ∧
    (rejection? (start.declarations steps) = none ↔
      ∃ registry, (ofSteps start steps).build = .ok registry ∧
        registry.Reflects (start.declarations steps)) := by
  have describes := describes_ofSteps start steps
  rw [← describes.failure?_build]
  constructor
  · intro error
    exact failure?_eq_some_iff.symm
  · rw [failure?_eq_none_iff]
    constructor
    · rintro ⟨registry, built⟩
      exact ⟨registry, built, (builds_of_build_eq_ok built).reflects describes⟩
    · rintro ⟨registry, built, -⟩
      exact ⟨registry, built⟩

def extensionOfEach : List Step :=
  [.language "x" [], .language "y" [], .extension "a" "x", .extension "b" "y"]

/-- Not being the language of the last step is no reason to refuse a language without rules. -/
theorem build_extensionOfEach :
    declaredIds (Start.empty.declarations extensionOfEach) = ["x", "y"] ∧
    repeatedIds (Start.empty.declarations extensionOfEach) = [] ∧
    (∀ id ∈ ["x", "y"], languageRejection? id
      (declaredRules (Start.empty.declarations extensionOfEach) id) = none) ∧
    (∀ mapping ∈ declaredMappings (Start.empty.declarations extensionOfEach),
      mappingRejection? ["x", "y"] mapping = none) ∧
    declaredRules (Start.empty.declarations extensionOfEach) "x" = [] ∧
    extensionOfEach.getLast? = some (.extension "b" "y") ∧
    ∃ registry, (ofSteps .empty extensionOfEach).build = .ok registry := by
  refine ⟨by decide, by decide, by decide, by decide +kernel, by decide, rfl, ?_⟩
  exact failure?_eq_none_iff.mp (by decide +kernel)

end Draft

end LanguageDetection
