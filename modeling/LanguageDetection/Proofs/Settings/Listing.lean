import LanguageDetection.Proofs.Settings.Stable
import LanguageDetection.Proofs.Signature.Acceptance
import LanguageDetection.Proofs.Signature.Agreement

/-!
The two ways to list the extensions of a language: in one text, between commas, or in an array. They
differ in what is listed again, which a text keeps; nothing is built differently for it.
-/

namespace LanguageDetection

open LanguageDetection.Extension
open LanguageDetection.Text

namespace Document

/-- The pieces of a text between commas, as an array. -/
def piecesOf (text : String) : Document :=
  .array ((split ',' text).map .text)

/-- The document of a language with other extensions where it has any. -/
def withExtensions (document extensions : Document) : Document :=
  match document with
  | .object fields => .object (fields.map fun field =>
      if field.1 = "extensions" then (field.1, extensions) else field)
  | .array items => .array (items.set 2 extensions)
  | other => other

theorem readExtensions_piecesOf (text : String) :
    (piecesOf text).readExtensions = .ok (extensionsOfText text).eraseDups := by
  have pieces : readItemsFrom readText 0 ((split ',' text).map .text) =
      .ok ((split ',' text).map id) :=
    readItemsFrom_map (fun piece _ => show readText (.text piece) = .ok piece from rfl) 0
  rw [piecesOf, readExtensions, pieces, List.map_id, extensionsOfText, ← withoutRepeats_eq]
  rfl

theorem eraseDups_eq_self_iff {items : List String} : items.eraseDups = items ↔ items.Nodup := by
  constructor
  · intro same
    rw [← same, ← withoutRepeats_eq]
    exact nodup_withoutRepeats items
  · exact eraseDups_eq_self

/-- A text repeats no extension if no two of its pieces have the same kept form. -/
theorem nodup_extensionsOfText_iff {text : String} :
    (extensionsOfText text).Nodup ↔ (split ',' text).Pairwise fun piece later =>
      normalize? piece = none ∨ normalize? later ≠ normalize? piece := by
  rw [extensionsOfText, List.Nodup, List.pairwise_filterMap]
  refine iff_of_eq (congrArg (List.Pairwise · _) ?_)
  funext piece later
  cases normalize? piece with
  | none => simp
  | some extension =>
      cases normalize? later with
      | none => simp
      | some other => simp [eq_comm]

/-- What is known of a language, without the extensions that are listed again. -/
def LanguageParts.withoutRepeats (parts : LanguageParts) : LanguageParts :=
  { parts with extensions := parts.extensions.map List.eraseDups }

theorem map_bind_eq {ε α β α' β' : Type} {x : Except ε α} {f : α → α'} {g : β → β'}
    {next : α → Except ε β} {next' : α' → Except ε β'}
    (same : ∀ a, next' (f a) = (next a).map g) :
    (x.map f >>= next') = (x >>= next).map g := by
  cases x with
  | error e => rfl
  | ok a => exact same a

section

variable {origin : Origin} {label name text : String}

theorem add_withoutRepeats {value : Document} {parts : LanguageParts}
    (other : name ≠ "extensions") :
    LanguageParts.add origin parts.withoutRepeats label name value =
      (LanguageParts.add origin parts label name value).map LanguageParts.withoutRepeats := by
  unfold LanguageParts.add
  split
  case h_3 => exact absurd rfl other
  case h_4 => rfl
  all_goals
    rw [LanguageParts.withoutRepeats]
    cases fill _ label _ _ <;> rfl

theorem add_piecesOf {parts : LanguageParts} :
    LanguageParts.add origin parts.withoutRepeats label "extensions" (piecesOf text) =
      (LanguageParts.add origin parts label "extensions" (.text text)).map
        LanguageParts.withoutRepeats := by
  simp only [LanguageParts.add, readExtensions_piecesOf]
  rw [LanguageParts.withoutRepeats]
  cases parts.extensions <;> rfl

theorem readObject_withExtensions {fields : List (String × Document)} {parts : LanguageParts} :
    readObject (LanguageParts.add origin) (fields.map fun field =>
        if field.1 = "extensions" then (field.1, piecesOf text) else field) parts.withoutRepeats =
      (readObject (LanguageParts.add origin) (fields.map fun field =>
        if field.1 = "extensions" then (field.1, .text text) else field) parts).map
          LanguageParts.withoutRepeats := by
  induction fields generalizing parts with
  | nil => rfl
  | cons field rest ih =>
      obtain ⟨name, value⟩ := field
      rw [List.map_cons, List.map_cons]
      by_cases named : name = "extensions"
      · rw [if_pos named, if_pos named, readObject, readObject, named, add_piecesOf]
        exact map_bind_eq fun parts => ih
      · rw [if_neg named, if_neg named, readObject, readObject, add_withoutRepeats named]
        exact map_bind_eq fun parts => ih

theorem readSequence_set {items : List Document} {parts : LanguageParts} :
    readSequence (LanguageParts.add origin) 0 languageNames (items.set 2 (piecesOf text))
        parts.withoutRepeats =
      (readSequence (LanguageParts.add origin) 0 languageNames (items.set 2 (.text text))
        parts).map LanguageParts.withoutRepeats := by
  match items with
  | [] => rfl
  | [name] =>
      simp only [List.set_cons_succ, List.set_nil, languageNames, readSequence]
      rw [add_withoutRepeats (by decide)]
      exact map_bind_eq fun parts => rfl
  | [name, rules] =>
      simp only [List.set_cons_succ, List.set_nil, languageNames, readSequence]
      rw [add_withoutRepeats (by decide)]
      refine map_bind_eq fun parts => ?_
      rw [add_withoutRepeats (by decide)]
      exact map_bind_eq fun parts => rfl
  | name :: rules :: extensions :: rest =>
      simp only [List.set_cons_succ, List.set_cons_zero, languageNames, readSequence]
      rw [add_withoutRepeats (by decide)]
      refine map_bind_eq fun parts => ?_
      rw [add_withoutRepeats (by decide)]
      refine map_bind_eq fun parts => ?_
      rw [add_piecesOf]
      exact map_bind_eq fun parts => rfl

theorem checkSurplus_set {names : List String} {items : List Document} {place : Nat}
    {item : Document} :
    checkSurplus origin names (items.set place item) = checkSurplus origin names items := by
  cases origin with
  | json => simp only [checkSurplus, List.length_set]
  | layers => rfl

theorem finish_withoutRepeats {missing : String → ReadCause} {parts : LanguageParts} :
    LanguageParts.finish missing parts.withoutRepeats =
      (LanguageParts.finish missing parts).map CustomLanguage.withoutRepeats := by
  obtain ⟨name, rules, extensions⟩ := parts
  cases name <;> cases extensions <;> rfl

end

theorem readLanguage_withExtensions (origin : Origin) (document : Document) (text : String) :
    (document.withExtensions (piecesOf text)).readLanguage origin =
      ((document.withExtensions (.text text)).readLanguage origin).map
        CustomLanguage.withoutRepeats := by
  have start : ({} : LanguageParts) = ({} : LanguageParts).withoutRepeats := rfl
  cases document with
  | object fields =>
      simp only [withExtensions, readLanguage, readStructure]
      rw [start, readObject_withExtensions]
      exact map_bind_eq fun parts => finish_withoutRepeats
  | array items =>
      simp only [withExtensions, readLanguage, readStructure]
      rw [start, ← languageNames, readSequence_set]
      refine map_bind_eq fun parts => ?_
      rw [finish_withoutRepeats]
      refine map_bind_eq fun language => ?_
      rw [checkSurplus_set, checkSurplus_set]
      cases checkSurplus origin languageNames items <;> rfl
  | _ => rfl

end Document

theorem findSome?_eraseDups {β : Type} (f : String → Option β) (items : List String) :
    items.eraseDups.findSome? f = items.findSome? f := by
  induction items using List.reverseRecOn with
  | nil => rfl
  | append_singleton items item ih =>
      rw [List.eraseDups_append, List.findSome?_append, List.findSome?_append, ih]
      by_cases known : item ∈ items
      · have nothing : [item].removeAll items = [] := by
          simp [List.removeAll, known]
        rw [nothing, List.eraseDups_nil, List.findSome?_nil, Option.or_none]
        cases found : items.findSome? f with
        | some value => rfl
        | none =>
            have absent := List.findSome?_eq_none_iff.mp found item known
            rw [List.findSome?_singleton, absent, Option.or_none]
      · have isNew : [item].removeAll items = [item] := by
          simp [List.removeAll, known]
        rw [isNew, List.eraseDups_cons, List.filter_nil, List.eraseDups_nil]

theorem any_eraseDups (p : String → Bool) (items : List String) :
    items.eraseDups.any p = items.any p := by
  rw [Bool.eq_iff_iff, List.any_eq_true, List.any_eq_true]
  simp only [List.mem_eraseDups]

namespace Settings

variable (settings : Settings)

theorem newIds_withoutRepeats (table : BuiltIn) :
    settings.withoutRepeats.newIds table = settings.newIds table := by
  rw [newIds, newIds, withoutRepeats, List.map_map]
  rfl

theorem rulesOf_withoutRepeats (id : String) :
    settings.withoutRepeats.rulesOf id = settings.rulesOf id := by
  rw [rulesOf, rulesOf, withoutRepeats, List.flatMap_map]
  rfl

theorem lastLister?_withoutRepeats (customs : List CustomLanguage) (spelled : String) :
    lastLister? (customs.map (·.withoutRepeats)) spelled = lastLister? customs spelled := by
  induction customs with
  | nil => rfl
  | cons custom rest ih =>
      have lists : lastOwner? custom.withoutRepeats.mappings spelled =
          lastOwner? custom.mappings spelled := by
        rw [lastOwner?_mappings, lastOwner?_mappings, CustomLanguage.withoutRepeats, any_eraseDups]
      rw [List.map_cons, lastLister?_cons, lastLister?_cons, ih, lists]

theorem findSome?_listedMappings_withoutRepeats {β : Type} (f : String × String → Option β) :
    settings.withoutRepeats.listedMappings.findSome? f = settings.listedMappings.findSome? f := by
  rw [listedMappings, listedMappings, withoutRepeats]
  induction settings.languages with
  | nil => rfl
  | cons custom rest ih =>
      have refuses : custom.withoutRepeats.mappings.findSome? f = custom.mappings.findSome? f := by
        rw [CustomLanguage.mappings, CustomLanguage.mappings, CustomLanguage.withoutRepeats,
          List.findSome?_map, List.findSome?_map, findSome?_eraseDups]
      rw [List.map_cons, List.flatMap_cons, List.flatMap_cons, List.findSome?_append,
        List.findSome?_append, ih, refuses]

theorem agree_withoutRepeats :
    Agree settings.withoutRepeats.layeredDeclarations settings.layeredDeclarations := by
  constructor
  case ids =>
    rw [declaredIds_layeredDeclarations, declaredIds_layeredDeclarations, newIds_withoutRepeats]
    rfl
  case rules =>
    intro id
    rw [declaredRules_layeredDeclarations, declaredRules_layeredDeclarations,
      rulesOf_withoutRepeats]
    rfl
  case repeated =>
    rw [layeredDeclarations, layeredDeclarations,
      repeatedIds_append_of_again?_eq_none (again?_declarations _),
      repeatedIds_append_of_again?_eq_none (again?_declarations _)]
    rfl
  case refused =>
    intro ids
    simp only [declaredMappings_layeredDeclarations, layeredMappings, List.findSome?_append,
      findSome?_listedMappings_withoutRepeats]
    rfl
  case owner =>
    apply ownerOf?_congr
    intro spelled
    simp only [declaredMappings_layeredDeclarations, layeredMappings, lastOwner?_append,
      lastOwner?_listedMappings]
    rw [withoutRepeats, lastLister?_withoutRepeats]
    rfl

theorem ofSettings_withoutRepeats :
    Registry.ofSettings settings.withoutRepeats = Registry.ofSettings settings := by
  rw [Registry.ofSettings_eq, Registry.ofSettings_eq]
  exact settings.agree_withoutRepeats.build_eq settings.withoutRepeats.describes_draftOfSettings
    settings.describes_draftOfSettings

end Settings

namespace Document

/-- A text and the array of its pieces list the same extensions in the same order, except that the
text may list one again. Everything else of the language is read alike, faults included, and nothing
is built differently for what is listed again. -/
theorem readLanguage_piecesOf (text : String) :
    (Document.text text).readExtensions = .ok ((split ',' text).filterMap normalize?) ∧
    (piecesOf text).readExtensions = .ok ((split ',' text).filterMap normalize?).eraseDups ∧
    ((piecesOf text).readExtensions = (Document.text text).readExtensions ↔
      (split ',' text).Pairwise fun piece later =>
        normalize? piece = none ∨ normalize? later ≠ normalize? piece) ∧
    (∀ origin (document : Document),
      (document.withExtensions (piecesOf text)).readLanguage origin =
        ((document.withExtensions (.text text)).readLanguage origin).map
          CustomLanguage.withoutRepeats) ∧
    ∀ settings : Settings,
      Registry.ofSettings settings.withoutRepeats = Registry.ofSettings settings := by
  refine ⟨rfl, readExtensions_piecesOf text, ?_, ?_, Settings.ofSettings_withoutRepeats⟩
  · rw [readExtensions_piecesOf, readExtensions, Except.ok.injEq, eraseDups_eq_self_iff,
      nodup_extensionsOfText_iff]
  · intro origin document
    exact readLanguage_withExtensions origin document text

/-- A language that lists the same extension in two spellings. -/
def listsAgain (extensions : Document) : Document :=
  .object [("name", .text "a"), ("extensions", extensions)]

theorem readLanguage_listsAgain :
    piecesOf "zig,.ZIG" = .array [.text "zig", .text ".ZIG"] ∧
    (listsAgain (.text "zig,.ZIG")).readLanguage .json = .ok ⟨"a", [], [".zig", ".zig"]⟩ ∧
    (listsAgain (piecesOf "zig,.ZIG")).readLanguage .json = .ok ⟨"a", [], [".zig"]⟩ := by
  have pieces : split ',' "zig,.ZIG" = ["zig", ".ZIG"] := by decide +kernel
  obtain ⟨_, read, rfl⟩ :
      ∃ language, (listsAgain (.text "zig,.ZIG")).readLanguage .json = .ok language ∧
        language = ⟨"a", [], [".zig", ".zig"]⟩ := by
    apply exists_of_check
    decide +kernel
  obtain ⟨_, readPieces, rfl⟩ :
      ∃ language, (listsAgain (piecesOf "zig,.ZIG")).readLanguage .json = .ok language ∧
        language = ⟨"a", [], [".zig"]⟩ := by
    apply exists_of_check
    decide +kernel
  exact ⟨by rw [piecesOf, pieces]; rfl, read, readPieces⟩

end Document

end LanguageDetection
