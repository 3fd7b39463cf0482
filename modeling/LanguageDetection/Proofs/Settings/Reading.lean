import LanguageDetection.Proofs.Dictionary
import LanguageDetection.Proofs.Extension
import LanguageDetection.Settings.Reading

/-!
Settings that are read from a document: what one field keeps, and with it the whole structure.
-/

namespace LanguageDetection

open LanguageDetection.Text

theorem bind_eq_ok_iff {ε α β : Type} {x : Except ε α} {f : α → Except ε β} {b : β} :
    (x >>= f) = .ok b ↔ ∃ a, x = .ok a ∧ f a = .ok b := by
  cases x with
  | error e => simp [bind, Except.bind]
  | ok a => simp [bind, Except.bind]

theorem map_eq_ok_iff {ε α β : Type} {x : Except ε α} {f : α → β} {b : β} :
    x.map f = .ok b ↔ ∃ a, x = .ok a ∧ f a = b := by
  cases x with
  | error e => simp [Except.map]
  | ok a => simp [Except.map]

/-- Extensions in their kept forms, each of them once. -/
structure KeptExtensions (extensions : Dictionary String) : Prop where
  ascending : extensions.Ascending
  normalize?_eq : ∀ mapping ∈ extensions, Extension.normalize? mapping.1 = some mapping.1

namespace Document

/-- The fields that are read from a document for a structure whose fields are called `names`. -/
def fieldsFor (names : List String) : Document → List (String × Document)
  | .object fields => fields
  | .array items => names.zip items
  | _ => []

section Structure

variable {σ α : Type} {add : AddField σ} {Holds : σ → Prop}

theorem of_readObject {fields : List (String × Document)} {parts parts' : σ}
    (kept : ∀ field ∈ fields, ∀ {parts parts' label}, Holds parts →
      add parts label field.1 field.2 = .ok parts' → Holds parts')
    (holds : Holds parts) (read : readObject add fields parts = .ok parts') : Holds parts' := by
  induction fields generalizing parts with
  | nil => exact Except.ok.inj read ▸ holds
  | cons field rest ih =>
      obtain ⟨keptFirst, keptRest⟩ := List.forall_mem_cons.mp kept
      obtain ⟨next, added, read⟩ := bind_eq_ok_iff.mp read
      exact ih keptRest (keptFirst holds added) read

theorem of_readSequence {place : Nat} {names : List String} {items : List Document}
    {parts parts' : σ}
    (kept : ∀ field ∈ names.zip items, ∀ {parts parts' label}, Holds parts →
      add parts label field.1 field.2 = .ok parts' → Holds parts')
    (holds : Holds parts) (read : readSequence add place names items parts = .ok parts') :
    Holds parts' := by
  induction names generalizing place items parts with
  | nil => exact Except.ok.inj read ▸ holds
  | cons name names ih =>
      cases items with
      | nil => exact Except.ok.inj read ▸ holds
      | cons item items =>
          rw [List.zip_cons_cons] at kept
          obtain ⟨keptFirst, keptRest⟩ := List.forall_mem_cons.mp kept
          obtain ⟨next, added, read⟩ := bind_eq_ok_iff.mp read
          exact ih keptRest (keptFirst holds added) read

theorem exists_parts_of_readStructure {origin : Origin} {name : String} {names : List String}
    {start : σ} {finish : (String → ReadCause) → σ → Reading α} {document : Document} {value : α}
    (kept : ∀ field ∈ document.fieldsFor names, ∀ {parts parts' label}, Holds parts →
      add parts label field.1 field.2 = .ok parts' → Holds parts')
    (holds : Holds start)
    (read : readStructure origin name names start add finish document = .ok value) :
    ∃ missing parts, Holds parts ∧ finish missing parts = .ok value := by
  cases document with
  | object fields =>
      obtain ⟨parts, fieldsRead, finished⟩ := bind_eq_ok_iff.mp read
      exact ⟨_, parts, of_readObject kept holds fieldsRead, finished⟩
  | array items =>
      obtain ⟨parts, itemsRead, read⟩ := bind_eq_ok_iff.mp read
      obtain ⟨value', finished, read⟩ := bind_eq_ok_iff.mp read
      obtain ⟨_, -, same⟩ := bind_eq_ok_iff.mp read
      obtain rfl := Except.ok.inj same
      exact ⟨_, parts, of_readSequence kept holds itemsRead, finished⟩
  | _ => contradiction

end Structure

theorem exists_of_mem_mappingsOfTable {table : List (String × String)} {mapping : String × String}
    (member : mapping ∈ mappingsOfTable table) :
    ∃ entry ∈ table, Extension.normalize? entry.1 = some mapping.1 ∧ trim entry.2 = mapping.2 := by
  obtain ⟨entry, given, made⟩ := List.mem_filterMap.mp (Dictionary.mem_of_mem_ofList member)
  obtain ⟨extension, kept, rfl⟩ := Option.map_eq_some_iff.mp made
  exact ⟨entry, Dictionary.mem_of_mem_ofList given, kept, rfl⟩

theorem exists_table_of_readMappings {document : Document} {extensions : Dictionary String}
    (read : document.readMappings = .ok extensions) :
    ∃ table, extensions = mappingsOfTable table := by
  cases document with
  | object fields =>
      obtain ⟨table, -, rfl⟩ := map_eq_ok_iff.mp read
      exact ⟨table, rfl⟩
  | _ => contradiction

theorem keptExtensions_of_readMappings {document : Document} {extensions : Dictionary String}
    (read : document.readMappings = .ok extensions) : KeptExtensions extensions := by
  obtain ⟨table, rfl⟩ := exists_table_of_readMappings read
  refine ⟨Dictionary.ascending_ofList _, fun mapping member => ?_⟩
  obtain ⟨entry, -, kept, -⟩ := exists_of_mem_mappingsOfTable member
  exact Extension.normalize?_of_normalize?_eq_some kept

theorem fill_eq_ok_iff {α : Type} {known filled : Option α} {label name : String}
    {reading : Reading α} :
    fill known label name reading = .ok filled ↔
      known = none ∧ ∃ value, reading = .ok value ∧ filled = some value := by
  cases known with
  | some value => simp [fill, ReadCause.fail]
  | none =>
      cases reading with
      | error fault => simp [fill, within, Except.mapError, Except.map]
      | ok value => simp [fill, within, Except.mapError, Except.map, eq_comm]

/-- Whether what is known of a part was read from a field with one of its names. -/
def ReadFrom {α : Type} (fields : List (String × Document)) (isName : String → Prop)
    (read : Document → Reading α) (known : Option α) : Prop :=
  ∀ value ∈ known, ∃ field ∈ fields, isName field.1 ∧ read field.2 = .ok value

section

variable {α : Type} {fields : List (String × Document)} {isName : String → Prop}
  {read : Document → Reading α} {known : Option α}

theorem readFrom_none : ReadFrom fields isName read none :=
  fun _ given => nomatch given

theorem ReadFrom.of_mem {field : String × Document} {value : α} (member : field ∈ fields)
    (named : isName field.1) (wasRead : read field.2 = .ok value) :
    ReadFrom fields isName read (some value) := by
  intro value' given
  obtain rfl := Option.mem_some_iff.mp given
  exact ⟨field, member, named, wasRead⟩

theorem ReadFrom.getD (readFrom : ReadFrom fields isName read known) (default : α) :
    known.getD default = default ∨
      ∃ field ∈ fields, isName field.1 ∧ read field.2 = .ok (known.getD default) := by
  cases known with
  | none => exact Or.inl rfl
  | some value => exact Or.inr (readFrom value rfl)

end

end Document

end LanguageDetection
