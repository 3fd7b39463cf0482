import LanguageDetection.Proofs.Settings.Overlay
import LanguageDetection.Proofs.Text.Split
import LanguageDetection.Proofs.Text.Take

/-!
Environment variables as a layer of settings: the layer is a plain document, and what it says of a
setting is what the last variable of that setting says.
-/

namespace LanguageDetection.Variables

open LanguageDetection.Text
open LanguageDetection.Document

theorem isPlain_integer? {chars : List Char} {document : Document}
    (read : integer? chars = some document) : document.IsPlain := by
  have ofNatural : ∀ n, integer?.positive? n = some document → document.IsPlain := by
    intro n positive
    unfold integer?.positive? at positive
    split at positive
    · exact Option.some.inj positive ▸ .unsigned
    · cases positive
  unfold integer? at read
  split at read
  · obtain ⟨n, -, negative⟩ := Option.bind_eq_some_iff.mp read
    split at negative
    · exact Option.some.inj negative ▸ .signed
    · cases negative
  · obtain ⟨n, -, positive⟩ := Option.bind_eq_some_iff.mp read
    exact ofNatural n positive
  · obtain ⟨n, -, positive⟩ := Option.bind_eq_some_iff.mp read
    exact ofNatural n positive

theorem isPlain_word (chars : List Char) : (word chars).IsPlain := by
  simp only [word]
  split
  · exact .float
  · cases read : integer? (String.ofList (trimChars chars)).toList with
    | none => exact .text
    | some document => exact isPlain_integer? read

theorem yields_leaf : Take.Yields IsPlain leaf := by
  unfold leaf
  refine .orElse ?_ (.orElse ?_ ?_)
  · exact .after fun _ => .pure .bool
  · exact .after fun _ => .pure .bool
  · apply Take.Yields.after
    intro next
    split
    · exact .after fun _ => .pure .text
    · exact .after fun _ => .after fun _ => .after fun _ => .pure .char
    · exact .after fun chars => .pure (isPlain_word chars)

section

variable {fuel : Nat}

theorem yields_value_succ (ofItems : Take.Yields (fun documents => ∀ item ∈ documents, IsPlain item)
      (items fuel))
    (ofFields : Take.Yields (fun pairs => ∀ field ∈ pairs, IsPlain field.2) (fields fuel)) :
    Take.Yields IsPlain (value (fuel + 1)) := by
  have last : ∀ document, IsPlain document →
      Take.Yields IsPlain (do skipSpace; return document) :=
    fun document plain => .after fun _ => .pure plain
  unfold value
  refine .after fun _ => .after fun next => ?_
  split
  · refine .after fun _ => .bind ofItems fun documents plain => ?_
    exact last _ (.array plain)
  · refine .after fun _ => .bind ofFields fun pairs plain => ?_
    -- Of repeated fields the last one stays, so the fields of the object are some of those read.
    refine last _ (.object (Dictionary.ascending_ofList pairs) ?_)
    exact fun field member => plain field (Dictionary.mem_of_mem_ofList member)
  · exact .bind yields_leaf last

theorem yields_items_succ (ofValue : Take.Yields IsPlain (value fuel))
    (ofItems : Take.Yields (fun documents => ∀ item ∈ documents, IsPlain item) (items fuel)) :
    Take.Yields (fun documents => ∀ item ∈ documents, IsPlain item) (items (fuel + 1)) := by
  unfold items
  apply Take.Yields.after
  intro closed
  cases closed with
  | some _ => exact .pure fun _ member => nomatch member
  | none =>
      refine .bind ofValue fun first plain => .after fun comma => ?_
      cases comma with
      | some _ =>
          refine .bind ofItems fun others othersPlain => .pure ?_
          exact List.forall_mem_cons.mpr ⟨plain, othersPlain⟩
      | none =>
          refine .after fun _ => .pure ?_
          exact List.forall_mem_singleton.mpr plain

theorem yields_fields_succ (ofValue : Take.Yields IsPlain (value fuel))
    (ofFields : Take.Yields (fun pairs => ∀ field ∈ pairs, IsPlain field.2) (fields fuel)) :
    Take.Yields (fun pairs => ∀ field ∈ pairs, IsPlain field.2) (fields (fuel + 1)) := by
  unfold fields
  apply Take.Yields.after
  intro closed
  cases closed with
  | some _ => exact .pure fun _ member => nomatch member
  | none =>
      refine .after fun _ => .after fun name => .after fun _ => .after fun _ => ?_
      refine .bind ofValue fun first plain => .after fun comma => ?_
      cases comma with
      | some _ =>
          refine .bind ofFields fun others othersPlain => .pure ?_
          exact List.forall_mem_cons.mpr ⟨plain, othersPlain⟩
      | none =>
          refine .after fun _ => .pure ?_
          exact List.forall_mem_singleton.mpr plain

end

theorem yields_value (fuel : Nat) :
    Take.Yields IsPlain (value fuel) ∧
      Take.Yields (fun documents => ∀ item ∈ documents, IsPlain item) (items fuel) ∧
      Take.Yields (fun pairs => ∀ field ∈ pairs, IsPlain field.2) (fields fuel) := by
  induction fuel with
  | zero => exact ⟨.fail, .fail, .fail⟩
  | succ fuel ih =>
      obtain ⟨ofValue, ofItems, ofFields⟩ := ih
      exact ⟨yields_value_succ ofItems ofFields, yields_items_succ ofValue ofItems,
        yields_fields_succ ofValue ofFields⟩

theorem isPlain_documentOf (text : String) : (documentOf text).IsPlain := by
  unfold documentOf
  dsimp only
  split
  · rename_i document read
    exact (yields_value _).1 _ document [] read
  · exact .text

theorem pathOf?_ne_nil {name : String} {path : List String}
    (found : pathOf? name = some path) : path ≠ [] := by
  unfold pathOf? at found
  dsimp only at found
  split at found
  · split at found
    · cases found
    · rw [← Option.some.inj found]
      simpa using splitChars_ne_nil '.' _
  · cases found

theorem isPlain_nest {path : List String} {value : Document} (plain : value.IsPlain) :
    (nest path value).IsPlain := by
  induction path with
  | nil => exact plain
  | cons name path ih =>
      exact .object (List.pairwise_singleton _ _) (List.forall_mem_singleton.mpr ih)

theorem document_concat (environment : List (String × String)) (entry : String × String) :
    document (environment ++ [entry]) = match pathOf? entry.1 with
      | some path => (document environment).overlay (nest path (documentOf entry.2))
      | none => document environment := by
  cases named : pathOf? entry.1 with
  | none => simp only [document, List.foldl_concat, named]
  | some path => simp only [document, List.foldl_concat, named]

theorem isPlain_document (environment : List (String × String)) :
    (document environment).IsPlain := by
  induction environment using List.reverseRecOn with
  | nil => exact .object List.Pairwise.nil fun _ member => nomatch member
  | append_singleton environment entry ih =>
      rw [document_concat]
      cases pathOf? entry.1 with
      | none => exact ih
      | some path => exact ih.overlay (isPlain_nest (isPlain_documentOf entry.2))

theorem document_eq_object (environment : List (String × String)) :
    document environment = .object (document environment).fields := by
  induction environment using List.reverseRecOn with
  | nil => rfl
  | append_singleton environment entry ih =>
      rw [document_concat]
      cases named : pathOf? entry.1 with
      | none => exact ih
      | some path =>
          cases path with
          | nil => exact absurd rfl (pathOf?_ne_nil named)
          | cons name path =>
              dsimp only
              rw [nest, overlay_object]
              rfl

/-- Whether a variable gives a value to a setting, or to a part of one. -/
def SpeaksOf (name setting : String) : Prop :=
  ∃ path, pathOf? name = some (setting :: path)

/-- The last variable that speaks of a setting gives it a value. -/
def Sets (environment : List (String × String)) (setting : String) (value : Document) : Prop :=
  ∃ before entry after, environment = before ++ entry :: after ∧
    pathOf? entry.1 = some [setting] ∧ documentOf entry.2 = value ∧
    ∀ later ∈ after, ¬ SpeaksOf later.1 setting

theorem find?_document_concat (environment : List (String × String)) (entry : String × String)
    (setting : String) :
    Dictionary.find? (document (environment ++ [entry])).fields setting =
      match pathOf? entry.1 with
      | some (name :: path) =>
          if setting = name then
            some (overlayOn (Dictionary.find? (document environment).fields setting)
              (nest path (documentOf entry.2)))
          else Dictionary.find? (document environment).fields setting
      | _ => Dictionary.find? (document environment).fields setting := by
  rw [document_concat]
  cases named : pathOf? entry.1 with
  | none => rfl
  | some path =>
      cases path with
      | nil => exact absurd rfl (pathOf?_ne_nil named)
      | cons name path =>
          dsimp only
          rw [nest, overlay_object, Document.fields, find?_overlayFields (List.pairwise_singleton _ _),
            Dictionary.find?_cons]
          split <;> rfl

theorem find?_document_eq_none_iff (environment : List (String × String)) (setting : String) :
    Dictionary.find? (document environment).fields setting = none ↔
      ∀ entry ∈ environment, ¬ SpeaksOf entry.1 setting := by
  induction environment using List.reverseRecOn with
  | nil => simp [document, Document.fields]
  | append_singleton environment entry ih =>
      rw [find?_document_concat, List.forall_mem_append, List.forall_mem_singleton, ← ih, SpeaksOf]
      split
      · rename_i name path named
        rw [named]
        by_cases same : setting = name
        · simp [same]
        · simp [same, Ne.symm same]
      · rename_i other
        simp only [iff_self_and, not_exists]
        intro _ path named
        exact other setting path named

/-- What is not an object is what the last variable that speaks of the setting says. -/
theorem sets_of_find?_document {environment : List (String × String)} {setting : String}
    {value : Document} (found : Dictionary.find? (document environment).fields setting = some value)
    (notObject : ∀ fields, value ≠ .object fields) : Sets environment setting value := by
  induction environment using List.reverseRecOn with
  | nil => contradiction
  | append_singleton environment entry ih =>
      have silent : Dictionary.find? (document environment).fields setting = some value →
          ¬ SpeaksOf entry.1 setting → Sets (environment ++ [entry]) setting value := by
        intro found quiet
        obtain ⟨before, setter, after, split, named, equal, later⟩ := ih found
        refine ⟨before, setter, after ++ [entry], ?_, named, equal, ?_⟩
        · rw [split]
          simp
        · exact List.forall_mem_append.mpr ⟨later, List.forall_mem_singleton.mpr quiet⟩
      rw [find?_document_concat] at found
      split at found
      · rename_i name path named
        split at found
        · rename_i same
          subst same
          have last := eq_of_overlayOn_eq (Option.some.inj found) notObject
          cases path with
          | nil =>
              refine ⟨environment, entry, [], rfl, named, last, ?_⟩
              exact fun later member => nomatch member
          -- A value deeper in the setting makes it an object.
          | cons part path => exact absurd last.symm (notObject _)
        · rename_i different
          apply silent found
          rintro ⟨path', named'⟩
          rw [named] at named'
          exact different (List.cons_eq_cons.mp (Option.some.inj named')).1.symm
      · rename_i other
        exact silent found fun ⟨path, named⟩ => other setting path named

end LanguageDetection.Variables
