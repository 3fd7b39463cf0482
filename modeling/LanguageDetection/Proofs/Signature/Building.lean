import LanguageDetection.Proofs.Extension
import LanguageDetection.Proofs.Signature.Declaration
import Mathlib.Data.List.Forall2

/-!
Building taken apart: what a registry and its draft have in common, and which check a draft fails.
-/

namespace LanguageDetection

open LanguageDetection.Pattern

section Except

variable {ε α β : Type}

def failure? : Except ε α → Option ε
  | .error e => some e
  | .ok _ => none

theorem failure?_eq_some_iff {x : Except ε α} {e : ε} : failure? x = some e ↔ x = .error e := by
  cases x <;> simp [failure?]

theorem failure?_eq_none_iff {x : Except ε α} : failure? x = none ↔ ∃ a, x = .ok a := by
  cases x <;> simp [failure?]

/-- A computation that is run succeeds with what passes a check. -/
theorem exists_of_check {x : Except ε α} {check : α → Prop} [DecidablePred check]
    (checked : (x.toOption.any fun a => decide (check a)) = true) : ∃ a, x = .ok a ∧ check a := by
  cases x with
  | error e => contradiction
  | ok a => exact ⟨a, rfl, of_decide_eq_true checked⟩

theorem mapM_eq_ok_iff {f : α → Except ε β} {xs : List α} {ys : List β} :
    xs.mapM f = .ok ys ↔ List.Forall₂ (fun x y => f x = .ok y) xs ys := by
  induction xs generalizing ys with
  | nil =>
      rw [List.mapM_nil, List.forall₂_nil_left_iff]
      exact ⟨fun equal => (Except.ok.inj equal).symm, fun equal => congrArg Except.ok equal.symm⟩
  | cons x rest ih =>
      rw [List.mapM_cons, List.forall₂_cons_left_iff]
      cases first : f x with
      | error e => simp [bind, Except.bind]
      | ok y =>
          cases others : rest.mapM f with
          | error e => simp [bind, Except.bind, ← ih, others]
          | ok ys' =>
              simp only [bind, Except.bind, pure, Except.pure, ← ih, others, Except.ok.injEq]
              constructor
              · rintro rfl
                exact ⟨y, ys', rfl, rfl, rfl⟩
              · rintro ⟨_, _, rfl, rfl, rfl⟩
                rfl

theorem exists_of_mem_right {R : α → β → Prop} {xs : List α} {ys : List β} {y : β}
    (related : List.Forall₂ R xs ys) (member : y ∈ ys) : ∃ x ∈ xs, R x y := by
  induction related with
  | nil => exact absurd member List.not_mem_nil
  | cons first _ ih =>
      rcases List.mem_cons.mp member with rfl | inRest
      · exact ⟨_, List.mem_cons_self, first⟩
      · obtain ⟨x, inXs, holds⟩ := ih inRest
        exact ⟨x, List.mem_cons_of_mem _ inXs, holds⟩

/-- The first failure is the one that counts. -/
theorem failure?_mapM (f : α → Except ε β) (xs : List α) :
    failure? (xs.mapM f) = xs.findSome? fun x => failure? (f x) := by
  induction xs with
  | nil => rfl
  | cons x rest ih =>
      rw [List.mapM_cons, List.findSome?_cons, ← ih]
      cases f x with
      | error e => rfl
      | ok y => cases rest.mapM f <;> rfl

end Except

namespace Draft

theorem buildRule_eq_ok_iff {language : String} {rule : String × UInt32} {built : Rule} :
    buildRule language rule = .ok built ↔
      rule.2 ≠ 0 ∧ Rule.ofPattern rule.1 rule.2 = .ok built := by
  unfold buildRule
  split
  · rename_i zero
    simp [zero]
  · rename_i positive
    cases Rule.ofPattern rule.1 rule.2 <;> simp [positive]

theorem ofPattern_eq_ok_iff {pattern : String} {weight : UInt32} {built : Rule} :
    Rule.ofPattern pattern weight = .ok built ↔
      built.pattern = pattern ∧ built.weight = weight ∧
        Searcher.ofPattern pattern = .ok built.searcher := by
  obtain ⟨pattern', weight', searcher'⟩ := built
  unfold Rule.ofPattern
  cases Searcher.ofPattern pattern with
  | error reason => simp [Except.map]
  | ok searcher => simp [Except.map, eq_comm]

structure BuildsRule (rule : String × UInt32) (built : Rule) : Prop where
  weight_ne : built.weight ≠ 0
  eq : (built.pattern, built.weight) = rule
  compiled : Searcher.ofPattern built.pattern = .ok built.searcher

structure BuildsLanguage (language : DraftLanguage) (built : Language) : Prop where
  id_ne : built.id ≠ ""
  id_eq : built.id = language.id
  rules : List.Forall₂ BuildsRule language.rules built.rules

theorem buildsRule_iff {language : String} {rule : String × UInt32} {built : Rule} :
    buildRule language rule = .ok built ↔ BuildsRule rule built := by
  obtain ⟨pattern, weight⟩ := rule
  rw [buildRule_eq_ok_iff, ofPattern_eq_ok_iff]
  constructor
  · rintro ⟨positive, rfl, rfl, compiled⟩
    exact ⟨positive, rfl, compiled⟩
  · rintro ⟨positive, equal, compiled⟩
    obtain ⟨rfl, rfl⟩ := Prod.mk.inj equal
    exact ⟨positive, rfl, rfl, compiled⟩

theorem forall₂_buildsRule_iff {language : String} {rules : List (String × UInt32)}
    {built : List Rule} :
    rules.mapM (buildRule language) = .ok built ↔ List.Forall₂ BuildsRule rules built := by
  simp only [mapM_eq_ok_iff, buildsRule_iff]

theorem buildsLanguage_iff {language : DraftLanguage} {built : Language} :
    buildLanguage language = .ok built ↔ BuildsLanguage language built := by
  obtain ⟨id, rules⟩ := built
  unfold buildLanguage
  split
  · rename_i empty
    have noName : language.id = "" := String.isEmpty_iff.mp empty
    constructor
    · intro equal
      contradiction
    · rintro ⟨named, same, -⟩
      exact absurd (same.trans noName) named
  · rename_i named
    have name : language.id ≠ "" := fun equal => named (String.isEmpty_iff.mpr equal)
    cases mapped : language.rules.mapM (buildRule language.id) with
    | error e =>
        constructor
        · intro equal
          contradiction
        · rintro ⟨-, -, builds⟩
          rw [forall₂_buildsRule_iff.mpr builds] at mapped
          contradiction
    | ok rules' =>
        constructor
        · intro equal
          obtain ⟨rfl, rfl⟩ := Language.mk.inj (Except.ok.inj equal)
          exact ⟨name, rfl, forall₂_buildsRule_iff.mp mapped⟩
        · rintro ⟨-, rfl, builds⟩
          rw [forall₂_buildsRule_iff.mpr builds] at mapped
          obtain rfl := Except.ok.inj mapped
          rfl

theorem map_id_eq_of_buildsLanguage {drafted : List DraftLanguage} {languages : List Language}
    (built : List.Forall₂ BuildsLanguage drafted languages) :
    languages.map (·.id) = drafted.map (·.id) := by
  have same : List.Forall₂ (· = ·) (drafted.map (·.id)) (languages.map (·.id)) := by
    rw [List.forall₂_map_left_iff, List.forall₂_map_right_iff]
    exact built.imp fun _ _ built => built.id_eq.symm
  rw [List.forall₂_eq_eq_eq] at same
  exact same.symm

structure BuildsMapping (ids : List String) (mapping pair : String × String) : Prop where
  wellFormed : Extension.isMalformed mapping.1 = false
  kept : Extension.normalize? mapping.1 = some pair.1
  language_eq : pair.2 = mapping.2
  declared : pair.2 ∈ ids

theorem buildsMapping_iff {ids : List String} {mapping pair : String × String} :
    buildExtension ids mapping = .ok pair ↔ BuildsMapping ids mapping pair := by
  obtain ⟨extension, id⟩ := pair
  unfold buildExtension
  rw [Extension.filter_isWellFormed]
  cases malformed : Extension.isMalformed mapping.1 with
  | true =>
      constructor
      · intro equal
        contradiction
      · rintro ⟨wellFormed, -, -, -⟩
        rw [malformed] at wellFormed
        contradiction
  | false =>
      cases kept : Extension.normalize? mapping.1 with
      | none =>
          constructor
          · intro equal
            contradiction
          · rintro ⟨-, kept', -, -⟩
            rw [kept] at kept'
            contradiction
      | some extension' =>
          by_cases declared : mapping.2 ∈ ids
          · constructor
            · intro equal
              simp only [Bool.false_eq_true, if_false, List.contains_iff_mem, declared, if_true,
                Except.ok.injEq, Prod.mk.injEq] at equal
              obtain ⟨rfl, rfl⟩ := equal
              exact ⟨malformed, kept, rfl, declared⟩
            · rintro ⟨-, kept', rfl, -⟩
              obtain rfl := Option.some.inj (kept.symm.trans kept')
              simp [declared]
          · constructor
            · intro equal
              simp [declared] at equal
            · rintro ⟨-, -, rfl, declared'⟩
              exact absurd declared' declared

/-- What holds of a draft and the registry that is built from it. -/
structure Builds (draft : Draft) (registry : Registry) : Prop where
  nonempty : draft.languages ≠ []
  noDuplicates : draft.duplicates = []
  languages : List.Forall₂ BuildsLanguage draft.languages registry.languages
  extensions : ∃ pairs, List.Forall₂ (BuildsMapping registry.ids) draft.extensions pairs ∧
    registry.extensions = .ofList pairs
  reachable : ∀ language ∈ registry.languages, isReachable registry.extensions language = true
  index : registry.index = Registry.places registry.languages

theorem builds_of_build_eq_ok {draft : Draft} {registry : Registry}
    (built : draft.build = .ok registry) : draft.Builds registry := by
  unfold build at built
  split at built
  · contradiction
  · rename_i nonempty
    split at built
    · contradiction
    · rename_i noDuplicates
      cases languagesBuilt : draft.languages.mapM buildLanguage with
      | error e =>
          rw [languagesBuilt] at built
          contradiction
      | ok languages =>
          rw [languagesBuilt] at built
          cases extensionsBuilt : draft.extensions.mapM (buildExtension (languages.map (·.id))) with
          | error e =>
              simp [buildExtensions, extensionsBuilt, bind, Except.bind] at built
          | ok pairs =>
              simp only [buildExtensions, extensionsBuilt, bind, Except.bind, pure,
                Except.pure] at built
              split at built
              · contradiction
              · rename_i reachable
                obtain rfl := Except.ok.inj built
                constructor
                · simpa using nonempty
                · exact noDuplicates
                · simpa only [mapM_eq_ok_iff, buildsLanguage_iff] using languagesBuilt
                · refine ⟨pairs, ?_, rfl⟩
                  simp only [mapM_eq_ok_iff, buildsMapping_iff] at extensionsBuilt
                  exact extensionsBuilt
                · intro language member
                  simpa using List.find?_eq_none.mp reachable language member
                · rfl

end Draft

end LanguageDetection
