import LanguageDetection.Proofs.Settings.Overlay
import LanguageDetection.Proofs.Text.Take
import LanguageDetection.Toml.Layout

/-!
What is read from TOML is plain: no value is null, and the fields of tables are in order.
-/

namespace LanguageDetection.Toml

open LanguageDetection.Text
open LanguageDetection.Document (IsPlain)

inductive Node.IsPlain : Node → Prop
  | value {value : Document} : value.IsPlain → IsPlain (.value value)
  | table {opening : Opening} {fields : Fields} :
      (∀ field ∈ fields, IsPlain field.2) → IsPlain (.table opening fields)
  | tables {items : List Fields} :
      (∀ fields ∈ items, ∀ field ∈ fields, IsPlain field.2) → IsPlain (.tables items)

def Fields.IsPlain (fields : Fields) : Prop := ∀ field ∈ fields, Node.IsPlain field.2

theorem Fields.isPlain_nil : Fields.IsPlain [] := fun _ member => nomatch member

theorem Fields.IsPlain.lookup {fields : Fields} (plain : fields.IsPlain) {name : String}
    {node : Node} (found : fields.lookup name = some node) : node.IsPlain := by
  obtain ⟨before, after, split, -⟩ := List.lookup_eq_some_iff.mp found
  exact plain (name, node) (split ▸ List.mem_append_right _ List.mem_cons_self)

theorem Fields.IsPlain.setField {fields : Fields} (plain : fields.IsPlain) {name : String}
    {node : Node} (nodePlain : node.IsPlain) : (setField name node fields).IsPlain := by
  induction fields with
  | nil => exact List.forall_mem_singleton.mpr nodePlain
  | cons field rest ih =>
      obtain ⟨fieldPlain, restPlain⟩ := List.forall_mem_cons.mp plain
      unfold Toml.setField
      split
      · exact List.forall_mem_cons.mpr ⟨nodePlain, restPlain⟩
      · exact List.forall_mem_cons.mpr ⟨fieldPlain, ih restPlain⟩

/-- What a change keeps of the table at the end of a path it keeps of the whole. -/
theorem Fields.IsPlain.changeAt {isDotted : Bool} {path : List String} {opening : Opening}
    {change : Opening → Fields → Option Fields}
    (keeps : ∀ opening fields fields', Fields.IsPlain fields → change opening fields = some fields' →
      fields'.IsPlain)
    {fields fields' : Fields} (plain : fields.IsPlain)
    (changed : Toml.changeAt isDotted path opening change fields = some fields') :
    fields'.IsPlain := by
  induction path generalizing opening fields fields' with
  | nil => exact keeps opening fields fields' plain changed
  | cons name path ih =>
      rw [Toml.changeAt] at changed
      cases found : fields.lookup name with
      | none =>
          simp only [found] at changed
          obtain ⟨inner, changedInner, equal⟩ := Option.bind_eq_some_iff.mp changed
          obtain rfl := Option.some.inj equal
          exact plain.setField (.table (ih Fields.isPlain_nil changedInner))
      | some node =>
          have nodePlain := plain.lookup found
          cases nodePlain with
          | value _ =>
              simp only [found] at changed
              contradiction
          | @table opening known knownPlain =>
              simp only [found] at changed
              split at changed
              · contradiction
              · obtain ⟨inner, changedInner, equal⟩ := Option.bind_eq_some_iff.mp changed
                obtain rfl := Option.some.inj equal
                exact plain.setField (.table (ih knownPlain changedInner))
          | @tables items itemsPlain =>
              simp only [found] at changed
              cases last : items.getLast? with
              | none =>
                  simp only [last] at changed
                  contradiction
              | some known =>
                  simp only [last] at changed
                  obtain ⟨inner, changedInner, equal⟩ := Option.bind_eq_some_iff.mp changed
                  obtain rfl := Option.some.inj equal
                  have knownPlain := itemsPlain known (List.mem_of_getLast? last)
                  refine plain.setField (.tables (List.forall_mem_append.mpr ⟨?_, ?_⟩))
                  · exact fun fields member => itemsPlain fields (List.mem_of_mem_dropLast member)
                  · exact List.forall_mem_singleton.mpr (ih knownPlain changedInner)

theorem Fields.IsPlain.addValue {path : List String} {name : String} {value : Document}
    {opening : Opening} {fields fields' : Fields} (plain : fields.IsPlain)
    (valuePlain : value.IsPlain)
    (added : Toml.addValue path name value opening fields = some fields') : fields'.IsPlain := by
  refine plain.changeAt ?_ added
  intro opening known known' knownPlain set
  split at set
  · contradiction
  · split at set
    · contradiction
    · exact Option.some.inj set ▸ knownPlain.setField (.value valuePlain)

theorem mem_fieldDocuments {fields : Fields} {field : String × Document}
    (member : field ∈ fieldDocuments fields) :
    ∃ node, (field.1, node) ∈ fields ∧ field.2 = node.toDocument := by
  induction fields with
  | nil => contradiction
  | cons entry rest ih =>
      rw [fieldDocuments] at member
      cases List.mem_cons.mp member with
      | inl first =>
          subst first
          exact ⟨entry.2, List.mem_cons_self, rfl⟩
      | inr inRest =>
          obtain ⟨node, inFields, equal⟩ := ih inRest
          exact ⟨node, List.mem_cons_of_mem _ inFields, equal⟩

theorem itemDocuments_eq (items : List Fields) :
    itemDocuments items =
      items.map fun fields => .object (Dictionary.ofList (fieldDocuments fields)) := by
  induction items with
  | nil => rfl
  | cons fields rest ih => rw [itemDocuments, ih, List.map_cons]

theorem isPlain_objectOf {fields : Fields}
    (plain : ∀ field ∈ fields, (Node.toDocument field.2).IsPlain) :
    (Document.object (Dictionary.ofList (fieldDocuments fields))).IsPlain := by
  refine .object (Dictionary.ascending_ofList _) ?_
  intro field member
  obtain ⟨node, inFields, equal⟩ := mem_fieldDocuments (Dictionary.mem_of_mem_ofList member)
  exact equal ▸ plain (field.1, node) inFields

theorem Node.IsPlain.toDocument {node : Node} (plain : node.IsPlain) :
    node.toDocument.IsPlain := by
  induction plain with
  | value valuePlain => exact valuePlain
  | table _ ih => exact isPlain_objectOf ih
  | tables _ ih =>
      rw [Node.toDocument, itemDocuments_eq]
      refine .array (List.forall_mem_map.mpr ?_)
      exact fun fields member => isPlain_objectOf (ih fields member)

theorem yields_leaf : Take.Yields IsPlain leaf := by
  unfold leaf
  apply Take.Yields.after
  intro next
  split
  · exact .fail
  · split
    · exact .after fun _ => .pure .text
    · split
      · exact .after fun _ => .pure .bool
      · split
        · exact .after fun _ => .pure .bool
        · refine .orElse (.after fun text => .pure ?_) (.orElse ?_ ?_)
          · exact .object (List.pairwise_singleton _ _) (List.forall_mem_singleton.mpr .text)
          · exact .after fun _ => .pure .float
          · exact .after fun _ => .pure .signed

theorem yields_items {item : Take Document} (ofItem : Take.Yields IsPlain item) (fuel : Nat) :
    Take.Yields (fun documents => ∀ document ∈ documents, IsPlain document) (items item fuel) := by
  induction fuel with
  | zero => exact .fail
  | succ fuel ih =>
      unfold items
      refine .after fun _ => .after fun closed => ?_
      split
      · exact .pure fun _ member => nomatch member
      · refine .bind ofItem fun first plain => .after fun _ => .after fun comma => ?_
        split
        · refine .bind ih fun others othersPlain => .pure ?_
          exact List.forall_mem_cons.mpr ⟨plain, othersPlain⟩
        · refine .after fun _ => .pure ?_
          exact List.forall_mem_singleton.mpr plain

theorem yields_fieldsOfLine {item : Take Document} (ofItem : Take.Yields IsPlain item) (fuel : Nat)
    {known : Fields} (plain : known.IsPlain) :
    Take.Yields Fields.IsPlain (fieldsOfLine item fuel known) := by
  induction fuel generalizing known with
  | zero => exact .fail
  | succ fuel ih =>
      unfold fieldsOfLine
      refine .after fun key => .after fun _ => .after fun _ => .bind ofItem fun value valuePlain => ?_
      refine .after fun _ => ?_
      split
      · exact .fail
      · rename_i fields added
        have fieldsPlain := plain.addValue valuePlain added
        refine .after fun comma => ?_
        split
        · exact ih fieldsPlain
        · exact .after fun _ => .pure fieldsPlain

theorem yields_array {item : Take Document} (ofItem : Take.Yields IsPlain item) :
    Take.Yields IsPlain (array item) :=
  .after fun _ => .bind (.fueled fun fuel => yields_items ofItem fuel) fun _ plain =>
    .pure (.array plain)

theorem yields_inlineTable {item : Take Document} (ofItem : Take.Yields IsPlain item) :
    Take.Yields IsPlain (inlineTable item) := by
  unfold inlineTable
  refine .after fun _ => .after fun closed => ?_
  split
  · exact .pure (.object List.Pairwise.nil fun _ member => nomatch member)
  · refine .bind (.fueled fun fuel => yields_fieldsOfLine ofItem fuel Fields.isPlain_nil) ?_
    exact fun fields plain => .pure (Node.IsPlain.table plain).toDocument

theorem yields_value (depth : Nat) : Take.Yields IsPlain (value depth) := by
  induction depth with
  | zero =>
      unfold value
      apply Take.Yields.after
      intro next
      split
      · exact .fail
      · exact .fail
      · exact yields_leaf
  | succ depth ih =>
      unfold value
      apply Take.Yields.after
      intro next
      split
      · exact yields_array ih
      · exact yields_inlineTable ih
      · exact yields_leaf

def Entry.IsPlain (entry : Entry) : Prop := entry.value.IsPlain

def Line.IsPlain : Line → Prop
  | .entry e => e.IsPlain
  | .header _ => True

theorem yields_entry : Take.Yields Entry.IsPlain entry := by
  unfold entry
  refine .after fun key => .after fun _ => .after fun _ => ?_
  exact .bind (yields_value _) fun value plain => .after fun _ => .pure plain

theorem yields_lines (fuel : Nat) :
    Take.Yields (fun lines => ∀ line ∈ lines, Line.IsPlain line) (lines fuel) := by
  induction fuel with
  | zero => exact .fail
  | succ fuel ih =>
      unfold lines
      refine .after fun _ => .after fun next => ?_
      have more : ∀ line, Line.IsPlain line →
          Take.Yields (fun lines => ∀ line ∈ lines, Line.IsPlain line)
            (do return line :: (← lines fuel)) := by
        intro line plain
        refine .bind ih fun others othersPlain => .pure ?_
        exact List.forall_mem_cons.mpr ⟨plain, othersPlain⟩
      split
      · exact .pure fun _ member => nomatch member
      · split
        · exact .bind (.map (.any header) fun _ _ => trivial) more
        · exact .bind (.map yields_entry fun _ plain => plain) more

theorem isPlain_sections {lines : List Line} (plain : ∀ line ∈ lines, Line.IsPlain line) :
    (∀ entry ∈ (sections lines).1, Entry.IsPlain entry) ∧
      ∀ later ∈ (sections lines).2, ∀ entry ∈ later.2, Entry.IsPlain entry := by
  induction lines with
  | nil => exact ⟨List.forall_mem_nil _, List.forall_mem_nil _⟩
  | cons line rest ih =>
      obtain ⟨linePlain, restPlain⟩ := List.forall_mem_cons.mp plain
      obtain ⟨entriesPlain, laterPlain⟩ := ih restPlain
      cases line with
      | entry e => exact ⟨List.forall_mem_cons.mpr ⟨linePlain, entriesPlain⟩, laterPlain⟩
      | header h =>
          exact ⟨List.forall_mem_nil _, List.forall_mem_cons.mpr ⟨entriesPlain, laterPlain⟩⟩

theorem Fields.IsPlain.addEntries {entries : List Entry}
    (entriesPlain : ∀ entry ∈ entries, Entry.IsPlain entry) {fields fields' : Fields}
    (plain : fields.IsPlain) (added : Toml.addEntries fields entries = some fields') :
    fields'.IsPlain := by
  unfold Toml.addEntries at added
  induction entries generalizing fields with
  | nil => exact Option.some.inj added ▸ plain
  | cons entry rest ih =>
      obtain ⟨entryPlain, restPlain⟩ := List.forall_mem_cons.mp entriesPlain
      rw [List.foldlM_cons] at added
      obtain ⟨next, addedEntry, addedRest⟩ := Option.bind_eq_some_iff.mp added
      exact ih restPlain (plain.addValue entryPlain addedEntry) addedRest

theorem Fields.IsPlain.openTable {name : String} {entries : List Entry}
    (entriesPlain : ∀ entry ∈ entries, Entry.IsPlain entry) {fields fields' : Fields}
    (plain : fields.IsPlain) (opened : Toml.openTable name entries fields = some fields') :
    fields'.IsPlain := by
  unfold Toml.openTable at opened
  split at opened
  · obtain ⟨table, added, equal⟩ := Option.bind_eq_some_iff.mp opened
    obtain rfl := Option.some.inj equal
    exact plain.setField (.table (Fields.isPlain_nil.addEntries entriesPlain added))
  · rename_i known found
    obtain ⟨table, added, equal⟩ := Option.bind_eq_some_iff.mp opened
    obtain rfl := Option.some.inj equal
    cases plain.lookup found with
    | table knownPlain =>
        exact plain.setField (.table (Fields.IsPlain.addEntries entriesPlain knownPlain added))
  · contradiction

theorem Fields.IsPlain.openItem {name : String} {entries : List Entry}
    (entriesPlain : ∀ entry ∈ entries, Entry.IsPlain entry) {fields fields' : Fields}
    (plain : fields.IsPlain) (opened : Toml.openItem name entries fields = some fields') :
    fields'.IsPlain := by
  unfold Toml.openItem at opened
  obtain ⟨table, added, opened⟩ := Option.bind_eq_some_iff.mp opened
  have tablePlain := Fields.isPlain_nil.addEntries entriesPlain added
  split at opened
  · obtain rfl := Option.some.inj opened
    exact plain.setField (.tables (List.forall_mem_singleton.mpr tablePlain))
  · rename_i items found
    obtain rfl := Option.some.inj opened
    cases plain.lookup found with
    | tables itemsPlain =>
        refine plain.setField (.tables (List.forall_mem_append.mpr ⟨itemsPlain, ?_⟩))
        exact List.forall_mem_singleton.mpr tablePlain
  · contradiction

theorem Fields.IsPlain.addSection {later : Header × List Entry}
    (entriesPlain : ∀ entry ∈ later.2, Entry.IsPlain entry) {fields fields' : Fields}
    (plain : fields.IsPlain) (added : Toml.addSection fields later = some fields') :
    fields'.IsPlain := by
  refine plain.changeAt ?_ added
  intro opening known known' knownPlain opened
  split at opened
  · exact knownPlain.openItem entriesPlain opened
  · exact knownPlain.openTable entriesPlain opened

theorem Fields.IsPlain.addSections {later : List (Header × List Entry)}
    (laterPlain : ∀ section' ∈ later, ∀ entry ∈ section'.2, Entry.IsPlain entry)
    {fields fields' : Fields} (plain : fields.IsPlain)
    (added : later.foldlM Toml.addSection fields = some fields') : fields'.IsPlain := by
  induction later generalizing fields with
  | nil => exact Option.some.inj added ▸ plain
  | cons first rest ih =>
      obtain ⟨firstPlain, restPlain⟩ := List.forall_mem_cons.mp laterPlain
      rw [List.foldlM_cons] at added
      obtain ⟨next, addedFirst, addedRest⟩ := Option.bind_eq_some_iff.mp added
      exact ih restPlain (plain.addSection firstPlain addedFirst) addedRest

theorem Fields.isPlain_of_fieldsOfLines {lines : List Line}
    (plain : ∀ line ∈ lines, Line.IsPlain line) {fields : Fields}
    (read : fieldsOfLines lines = some fields) : fields.IsPlain := by
  obtain ⟨entriesPlain, laterPlain⟩ := isPlain_sections plain
  obtain ⟨start, added, read⟩ := Option.bind_eq_some_iff.mp read
  exact (Fields.isPlain_nil.addEntries entriesPlain added).addSections laterPlain read

/-- What a file holds is a plain object. -/
theorem isPlain_parse? {text : String} {document : Document} (read : parse? text = some document) :
    document.IsPlain ∧ document = .object document.fields := by
  obtain ⟨⟨lines, rest⟩, linesRead, read⟩ := Option.bind_eq_some_iff.mp read
  obtain ⟨fields, fieldsRead, equal⟩ := Option.bind_eq_some_iff.mp read
  obtain rfl := Option.some.inj equal
  have linesPlain := Take.Yields.fueled yields_lines _ lines rest linesRead
  have fieldsPlain := Fields.isPlain_of_fieldsOfLines linesPlain fieldsRead
  exact ⟨(Node.IsPlain.table fieldsPlain).toDocument, rfl⟩

end LanguageDetection.Toml
