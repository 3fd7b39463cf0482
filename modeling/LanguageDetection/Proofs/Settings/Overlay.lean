import LanguageDetection.Proofs.Dictionary
import LanguageDetection.Settings.Layers

/-!
Documents laid over others: what becomes of their fields, and that plain documents stay plain.
-/

namespace LanguageDetection

namespace Dictionary

variable {α : Type}

theorem mem_of_find?_eq_some {dictionary : Dictionary α} {key : String} {value : α}
    (found : dictionary.find? key = some value) : (key, value) ∈ dictionary := by
  obtain ⟨before, after, split, -⟩ := List.lookup_eq_some_iff.mp found
  exact split ▸ List.mem_append_right _ List.mem_cons_self

theorem Ascending.find?_head {key : String} {value : α} {rest : Dictionary α}
    (ascending : Ascending ((key, value) :: rest)) : rest.find? key = none := by
  obtain ⟨below, restAscending⟩ := List.pairwise_cons.mp ascending
  rw [Option.eq_none_iff_forall_ne_some]
  intro other found
  exact lt_irrefl key (below (key, other) ((Ascending.mem_iff restAscending key other).mpr found))

end Dictionary

namespace Document

/-- Documents as layers hold them: without null, and with the fields of objects in order. -/
inductive IsPlain : Document → Prop
  | bool {value : Bool} : IsPlain (.bool value)
  | unsigned {value : Nat} : IsPlain (.unsigned value)
  | signed {value : Int} : IsPlain (.signed value)
  | float {value : Float} : IsPlain (.float value)
  | text {value : String} : IsPlain (.text value)
  | char {value : Char} : IsPlain (.char value)
  | array {items : List Document} : (∀ item ∈ items, IsPlain item) → IsPlain (.array items)
  | object {fields : List (String × Document)} :
      Dictionary.Ascending fields → (∀ field ∈ fields, IsPlain field.2) → IsPlain (.object fields)

def fields : Document → List (String × Document)
  | .object fields => fields
  | _ => []

theorem IsPlain.ascending {document : Document} (plain : document.IsPlain) :
    Dictionary.Ascending document.fields := by
  cases plain with
  | object ascending _ => exact ascending
  | _ => exact List.Pairwise.nil

theorem IsPlain.fields_plain {document : Document} (plain : document.IsPlain) :
    ∀ field ∈ document.fields, field.2.IsPlain := by
  cases plain with
  | object _ fieldsPlain => exact fieldsPlain
  | _ => exact fun field member => nomatch member

theorem IsPlain.field {document : Document} (plain : document.IsPlain) {name : String}
    {value : Document} (found : Dictionary.find? document.fields name = some value) :
    value.IsPlain :=
  plain.fields_plain _ ((plain.ascending.mem_iff name value).mpr found)

/-- What becomes of a value that is laid over another, or over nothing. -/
def overlayOn (below? : Option Document) (above : Document) : Document :=
  match below? with
  | some below => overlay below above
  | none => above

theorem overlayFields_cons (known : List (String × Document)) (name : String) (value : Document)
    (rest : List (String × Document)) :
    overlayFields known ((name, value) :: rest) =
      overlayFields (Dictionary.insert name (overlayOn (Dictionary.find? known name) value) known)
        rest := by
  rw [overlayFields]
  rfl

theorem overlay_of_not_object {below above : Document} (notObject : ∀ fields, above ≠ .object fields) :
    overlay below above = above := by
  cases above with
  | object fields => exact absurd rfl (notObject fields)
  | _ => rw [overlay]; exact notObject

theorem overlay_object (below : Document) (fields : List (String × Document)) :
    overlay below (.object fields) = .object (overlayFields below.fields fields) := by
  cases below with
  | object known => rw [overlay]; rfl
  | _ =>
      rw [overlay]
      · rfl
      · exact fun known => Document.noConfusion

/-- What is laid over something shows, unless it is an object. -/
theorem eq_of_overlayOn_eq {below? : Option Document} {above value : Document}
    (laid : overlayOn below? above = value) (notObject : ∀ fields, value ≠ .object fields) :
    above = value := by
  cases below? with
  | none => exact laid
  | some below =>
      cases above with
      | object fields => exact absurd (laid.symm.trans (overlay_object below fields)) (notObject _)
      | _ =>
          rw [overlayOn, overlay_of_not_object (by simp)] at laid
          exact laid

theorem ascending_overlayFields {known fields : List (String × Document)}
    (ascending : Dictionary.Ascending known) : Dictionary.Ascending (overlayFields known fields) := by
  induction fields generalizing known with
  | nil => exact ascending
  | cons field rest ih =>
      rw [overlayFields_cons]
      exact ih (ascending.insert _ _)

/-- A field above is laid over the field of its name below; other fields stay. -/
theorem find?_overlayFields {known fields : List (String × Document)}
    (ascending : Dictionary.Ascending fields) (name : String) :
    Dictionary.find? (overlayFields known fields) name =
      ((Dictionary.find? fields name).map (overlayOn (Dictionary.find? known name))).or
        (Dictionary.find? known name) := by
  induction fields generalizing known with
  | nil => rfl
  | cons field rest ih =>
      obtain ⟨first, value⟩ := field
      rw [overlayFields_cons, ih (List.pairwise_cons.mp ascending).2, Dictionary.find?_insert,
        Dictionary.find?_cons]
      by_cases same : name = first
      · subst same
        rw [ascending.find?_head]
        simp
      · simp [same]

theorem overlay_nothing {fields : List (String × Document)}
    (plain : (Document.object fields).IsPlain) :
    overlay (.object []) (.object fields) = .object fields := by
  have ascending : Dictionary.Ascending fields := plain.ascending
  rw [overlay_object]
  refine congrArg Document.object ?_
  apply Dictionary.Ascending.ext (ascending_overlayFields List.Pairwise.nil) ascending
  intro name
  rw [find?_overlayFields ascending, Dictionary.find?_nil]
  cases Dictionary.find? fields name <;> rfl

theorem overlay_with_nothing (fields : List (String × Document)) :
    overlay (.object fields) (.object []) = .object fields := overlay_object _ _

theorem mem_overlayFields {known fields : List (String × Document)} {holds : Document → Prop}
    (ofKnown : ∀ field ∈ known, holds field.2)
    (ofFields : ∀ field ∈ fields, ∀ below?, (∀ below ∈ below?, holds below) →
      holds (overlayOn below? field.2)) :
    ∀ field ∈ overlayFields known fields, holds field.2 := by
  induction fields generalizing known with
  | nil => exact ofKnown
  | cons field rest ih =>
      obtain ⟨name, value⟩ := field
      rw [overlayFields_cons]
      refine ih ?_ fun field member => ofFields field (List.mem_cons_of_mem _ member)
      intro field member
      cases Dictionary.eq_or_mem_of_mem_insert member with
      | inl inserted =>
          subst inserted
          apply ofFields (name, value) List.mem_cons_self
          intro below found
          exact ofKnown (name, below) (Dictionary.mem_of_find?_eq_some (Option.mem_def.mp found))
      | inr inKnown => exact ofKnown field inKnown

theorem IsPlain.overlay {below above : Document} (belowPlain : below.IsPlain)
    (abovePlain : above.IsPlain) : (Document.overlay below above).IsPlain := by
  induction abovePlain generalizing below with
  | @object fields ascending fieldsPlain ih =>
      have fieldsPlain' : ∀ field ∈ fields, ∀ below?, (∀ below ∈ below?, IsPlain below) →
          (overlayOn below? field.2).IsPlain := by
        intro field member below? belowPlain
        cases below? with
        | none => exact fieldsPlain field member
        | some below => exact ih field member (belowPlain below rfl)
      rw [overlay_object]
      refine .object (ascending_overlayFields belowPlain.ascending) ?_
      exact mem_overlayFields belowPlain.fields_plain fieldsPlain'
  | array itemsPlain =>
      rw [overlay_of_not_object (by simp)]
      exact .array itemsPlain
  | _ =>
      rw [overlay_of_not_object (by simp)]
      constructor

theorem isPlain_overlayOn {below? : Option Document} {above : Document}
    (belowPlain : ∀ below, below? = some below → below.IsPlain) (abovePlain : above.IsPlain) :
    (overlayOn below? above).IsPlain := by
  cases below? with
  | none => exact abovePlain
  | some below => exact (belowPlain below rfl).overlay abovePlain

end Document

end LanguageDetection
