import LanguageDetection.Proofs.Settings.Fields

/-!
Mappings of extensions, by the table that they are read from: of the keys with the same kept form the
greatest counts. Of two tables laid over each other the one with the greatest key counts.
-/

namespace LanguageDetection

open LanguageDetection.Text

namespace Dictionary

section

variable {α : Type} {accepts : String → Prop} {dictionary : Dictionary α} {key : String} {value : α}

/-- The entry with the greatest of the keys that are accepted. -/
structure Greatest (accepts : String → Prop) (dictionary : Dictionary α) (key : String)
    (value : α) : Prop where
  found : dictionary.find? key = some value
  accepted : accepts key
  greatest : ∀ other value', dictionary.find? other = some value' → accepts other → other ≤ key

theorem Greatest.unique {key' : String} {value' : α} (first : dictionary.Greatest accepts key value)
    (second : dictionary.Greatest accepts key' value') : key = key' ∧ value = value' := by
  have same : key = key' := le_antisymm (second.greatest key value first.found first.accepted)
    (first.greatest key' value' second.found second.accepted)
  subst same
  exact ⟨rfl, Option.some.inj (first.found.symm.trans second.found)⟩

/-- Searched from the end, a dictionary shows its greatest key first. -/
theorem Ascending.greatest_of_find?_reverse {test : String → Bool}
    (ascending : dictionary.Ascending)
    (found : dictionary.reverse.find? (fun entry => test entry.1) = some (key, value)) :
    dictionary.Greatest (test · = true) key value := by
  obtain ⟨accepted, before, after, split, skipped⟩ := List.find?_eq_some_iff_append.mp found
  have split' : dictionary = after.reverse ++ (key, value) :: before.reverse := by
    rw [← List.reverse_reverse dictionary, split]
    simp
  rw [split'] at ascending ⊢
  have member : (key, value) ∈ after.reverse ++ (key, value) :: before.reverse :=
    List.mem_append_right _ List.mem_cons_self
  refine ⟨(ascending.mem_iff key value).mp member, accepted, ?_⟩
  intro other value' otherFound otherAccepted
  have otherMember := (ascending.mem_iff other value').mpr otherFound
  obtain ⟨-, -, below⟩ := List.pairwise_append.mp ascending
  cases List.mem_append.mp otherMember with
  | inl earlier => exact (below _ earlier _ List.mem_cons_self).le
  | inr rest =>
      cases List.mem_cons.mp rest with
      | inl same => exact (congrArg Prod.fst same).le
      | inr later =>
          have refused := skipped (other, value') (List.mem_reverse.mp later)
          simp [otherAccepted] at refused

theorem Ascending.find?_reverse_eq_some_iff (ascending : dictionary.Ascending)
    (test : String → Bool) :
    dictionary.reverse.find? (fun entry => test entry.1) = some (key, value) ↔
      dictionary.Greatest (test · = true) key value := by
  refine ⟨ascending.greatest_of_find?_reverse, ?_⟩
  intro greatest
  cases found : dictionary.reverse.find? fun entry => test entry.1 with
  | none =>
      have member := List.mem_reverse.mpr ((ascending.mem_iff key value).mpr greatest.found)
      exact absurd greatest.accepted (by simpa using List.find?_eq_none.mp found _ member)
  | some entry =>
      obtain ⟨same, sameValue⟩ := greatest.unique (ascending.greatest_of_find?_reverse found)
      rw [same, sameValue]

theorem Ascending.ofList_eq (ascending : dictionary.Ascending) : ofList dictionary = dictionary := by
  apply Ascending.ext (ascending_ofList dictionary) ascending
  intro key
  have distinct : (dictionary.map (·.1)).Nodup := List.pairwise_map.mpr (ascending.imp LT.lt.ne)
  ext value
  rw [find?_ofList_eq_some_iff distinct, ascending.mem_iff]

/-- Whether an accepted key of one dictionary is greater than every accepted key of another. -/
def Outranks (accepts : String → Prop) (dictionary other : Dictionary α) : Prop :=
  ∃ key value, dictionary.find? key = some value ∧ accepts key ∧
    ∀ key' value', other.find? key' = some value' → accepts key' → key' < key

section Union

variable {below above union : Dictionary α}
  (find?_union : ∀ key, union.find? key = (above.find? key).or (below.find? key))

include find?_union

theorem greatest_union_of_outranks (outranks : below.Outranks accepts above) :
    union.Greatest accepts key value ↔ below.Greatest accepts key value := by
  obtain ⟨lower, lowerValue, lowerFound, lowerAccepted, isAbove⟩ := outranks
  -- The key that outranks is in the union, so a greatest key there is not one of those above.
  have notAbove : ∀ {key'}, lower ≤ key' → accepts key' → above.find? key' = none := by
    intro key' reaches accepted
    rw [Option.eq_none_iff_forall_ne_some]
    intro value' found
    exact not_lt_of_ge reaches (isAbove key' value' found accepted)
  have lowerInUnion : union.find? lower = some lowerValue := by
    rw [find?_union, notAbove le_rfl lowerAccepted, Option.none_or, lowerFound]
  constructor
  · intro greatest
    have reaches := greatest.greatest lower lowerValue lowerInUnion lowerAccepted
    have found := greatest.found
    rw [find?_union, notAbove reaches greatest.accepted, Option.none_or] at found
    refine ⟨found, greatest.accepted, fun other value' otherFound otherAccepted => ?_⟩
    cases inAbove : above.find? other with
    | none =>
        refine greatest.greatest other value' ?_ otherAccepted
        rw [find?_union, inAbove, Option.none_or, otherFound]
    | some value'' => exact (isAbove other value'' inAbove otherAccepted).le.trans reaches
  · intro greatest
    have reaches := greatest.greatest lower lowerValue lowerFound lowerAccepted
    refine ⟨?_, greatest.accepted, fun other value' otherFound otherAccepted => ?_⟩
    · rw [find?_union, notAbove reaches greatest.accepted, Option.none_or, greatest.found]
    · rw [find?_union] at otherFound
      cases inAbove : above.find? other with
      | none =>
          rw [inAbove, Option.none_or] at otherFound
          exact greatest.greatest other value' otherFound otherAccepted
      | some value'' => exact (isAbove other value'' inAbove otherAccepted).le.trans reaches

theorem greatest_union_of_not_outranks (notOutranks : ¬ below.Outranks accepts above) :
    union.Greatest accepts key value ↔ above.Greatest accepts key value := by
  constructor
  · intro greatest
    have upperReaches : ∀ other value', above.find? other = some value' → accepts other →
        other ≤ key := by
      intro other value' found accepted
      refine greatest.greatest other value' ?_ accepted
      rw [find?_union, found, Option.some_or]
    have found := greatest.found
    rw [find?_union] at found
    cases inAbove : above.find? key with
    | some value'' =>
        rw [inAbove, Option.some_or] at found
        obtain rfl := Option.some.inj found
        exact ⟨inAbove, greatest.accepted, upperReaches⟩
    | none =>
        rw [inAbove, Option.none_or] at found
        refine absurd ⟨key, value, found, greatest.accepted, ?_⟩ notOutranks
        intro other value' otherFound accepted
        refine lt_of_le_of_ne (upperReaches other value' otherFound accepted) ?_
        rintro rfl
        rw [inAbove] at otherFound
        contradiction
  · intro greatest
    refine ⟨?_, greatest.accepted, fun other value' otherFound otherAccepted => ?_⟩
    · rw [find?_union, greatest.found, Option.some_or]
    · rw [find?_union] at otherFound
      cases inAbove : above.find? other with
      | some value'' => exact greatest.greatest other value'' inAbove otherAccepted
      | none =>
          rw [inAbove, Option.none_or] at otherFound
          by_contra greater
          refine notOutranks ⟨other, value', otherFound, otherAccepted, ?_⟩
          intro upper upperValue upperFound accepted
          exact (greatest.greatest upper upperValue upperFound accepted).trans_lt
            (not_le.mp greater)

end Union

end

end Dictionary

namespace Document

theorem readFields_cons_eq_ok_iff {name : String} {document : Document}
    {rest : List (String × Document)} {table : List (String × String)} :
    readFields readText ((name, document) :: rest) = .ok table ↔
      ∃ text texts, document.readText = .ok text ∧ readFields readText rest = .ok texts ∧
        table = (name, text) :: texts := by
  rw [readFields]
  cases document.readText with
  | error fault => simp [within, Except.mapError, bind, Except.bind]
  | ok text =>
      cases readFields readText rest with
      | error fault => simp [within, Except.mapError, bind, Except.bind]
      | ok texts => simp [within, Except.mapError, bind, Except.bind, pure, Except.pure, eq_comm]

theorem find?_of_readFields {fields : List (String × Document)} {table : List (String × String)}
    (read : readFields readText fields = .ok table) (key text : String) :
    Dictionary.find? table key = some text ↔
      ∃ document, Dictionary.find? fields key = some document ∧ document.readText = .ok text := by
  induction fields generalizing table with
  | nil =>
      obtain rfl := Except.ok.inj read
      simp
  | cons field rest ih =>
      obtain ⟨first, texts, firstRead, restRead, rfl⟩ := readFields_cons_eq_ok_iff.mp read
      rw [Dictionary.find?_cons, Dictionary.find?_cons]
      by_cases same : key = field.1
      · simp [same, firstRead]
      · simpa [same] using ih restRead

theorem map_fst_of_readFields {fields : List (String × Document)} {table : List (String × String)}
    (read : readFields readText fields = .ok table) : table.map (·.1) = fields.map (·.1) := by
  induction fields generalizing table with
  | nil =>
      obtain rfl := Except.ok.inj read
      rfl
  | cons field rest ih =>
      obtain ⟨text, texts, -, restRead, rfl⟩ := readFields_cons_eq_ok_iff.mp read
      rw [List.map_cons, List.map_cons, ih restRead]

theorem exists_readFields_iff {fields : List (String × Document)} :
    (∃ table, readFields readText fields = .ok table) ↔
      ∀ field ∈ fields, ∃ text, field.2.readText = .ok text := by
  induction fields with
  | nil => exact ⟨fun _ => List.forall_mem_nil _, fun _ => ⟨[], rfl⟩⟩
  | cons field rest ih =>
      rw [List.forall_mem_cons, ← ih]
      constructor
      · rintro ⟨table, read⟩
        obtain ⟨text, texts, textRead, restRead, -⟩ := readFields_cons_eq_ok_iff.mp read
        exact ⟨⟨text, textRead⟩, texts, restRead⟩
      · rintro ⟨⟨text, textRead⟩, texts, restRead⟩
        exact ⟨_, readFields_cons_eq_ok_iff.mpr ⟨text, texts, textRead, restRead, rfl⟩⟩

theorem readText_of_readFields {fields : List (String × Document)} {table : List (String × String)}
    (read : readFields readText fields = .ok table) {key : String} {document : Document}
    (found : Dictionary.find? fields key = some document) :
    ∃ text, document.readText = .ok text :=
  exists_readFields_iff.mp ⟨table, read⟩ _ (Dictionary.mem_of_find?_eq_some found)

theorem lookup_filterMap_normalize? (table : List (String × String)) (extension : String) :
    (table.filterMap fun (key, id) =>
        (Extension.normalize? key).map fun kept => (kept, trim id)).lookup extension =
      (table.find? fun entry => Extension.normalize? entry.1 == some extension).map
        fun entry => trim entry.2 := by
  induction table with
  | nil => rfl
  | cons entry rest ih =>
      obtain ⟨key, id⟩ := entry
      rw [List.find?_cons]
      cases kept : Extension.normalize? key with
      | none => simpa [kept] using ih
      | some form =>
          by_cases same : extension = form
          · simp [kept, same]
          · have different : (form == extension) = false := beq_eq_false_iff_ne.mpr (Ne.symm same)
            have different' : (extension == form) = false := beq_eq_false_iff_ne.mpr same
            simp [kept, different, different', List.lookup_cons, ih]

/-- The mapping of an extension that is read from a table. -/
def Maps (table : List (String × Document)) (extension id : String) : Prop :=
  ∃ key document text,
    Dictionary.Greatest (Extension.normalize? · = some extension) table key document ∧
      document.readText = .ok text ∧ trim text = id

theorem find?_mappingsOfTable {table : List (String × String)}
    (ascending : Dictionary.Ascending table) (extension id : String) :
    (mappingsOfTable table).find? extension = some id ↔
      ∃ key text, Dictionary.Greatest (Extension.normalize? · = some extension) table key text ∧
        trim text = id := by
  have greatest_iff : ∀ key text,
      table.reverse.find? (fun entry => Extension.normalize? entry.1 == some extension) =
          some (key, text) ↔
        Dictionary.Greatest (Extension.normalize? · = some extension) table key text := by
    intro key text
    simp only [← beq_iff_eq (b := some extension)]
    exact ascending.find?_reverse_eq_some_iff (Extension.normalize? · == some extension)
  rw [mappingsOfTable, ascending.ofList_eq, Dictionary.find?_ofList, ← List.filterMap_reverse,
    lookup_filterMap_normalize?, Option.map_eq_some_iff]
  constructor
  · rintro ⟨⟨key, text⟩, found, same⟩
    exact ⟨key, text, (greatest_iff key text).mp found, same⟩
  · rintro ⟨key, text, greatest, same⟩
    exact ⟨(key, text), (greatest_iff key text).mpr greatest, same⟩

theorem greatest_of_readFields {fields : List (String × Document)} {table : List (String × String)}
    (read : readFields readText fields = .ok table) {accepts : String → Prop} {key text : String} :
    Dictionary.Greatest accepts table key text ↔
      ∃ document, Dictionary.Greatest accepts fields key document ∧
        document.readText = .ok text := by
  have found_iff := find?_of_readFields read
  constructor
  · intro greatest
    obtain ⟨document, found, textRead⟩ := (found_iff key text).mp greatest.found
    refine ⟨document, ⟨found, greatest.accepted, ?_⟩, textRead⟩
    intro other value otherFound accepted
    obtain ⟨text', otherRead⟩ := readText_of_readFields read otherFound
    exact greatest.greatest other text' ((found_iff other text').mpr ⟨value, otherFound, otherRead⟩)
      accepted
  · rintro ⟨document, greatest, textRead⟩
    refine ⟨(found_iff key text).mpr ⟨document, greatest.found, textRead⟩, greatest.accepted, ?_⟩
    intro other value otherFound accepted
    obtain ⟨document', inFields, -⟩ := (found_iff other value).mp otherFound
    exact greatest.greatest other document' inFields accepted

theorem find?_of_readMappings {fields : List (String × Document)}
    (ascending : Dictionary.Ascending fields) {mappings : Dictionary String}
    (read : (Document.object fields).readMappings = .ok mappings) (extension id : String) :
    mappings.find? extension = some id ↔ Maps fields extension id := by
  obtain ⟨table, fieldsRead, rfl⟩ := map_eq_ok_iff.mp read
  have tableAscending : Dictionary.Ascending table := by
    rw [Dictionary.Ascending, ← List.pairwise_map, map_fst_of_readFields fieldsRead,
      List.pairwise_map]
    exact ascending
  rw [find?_mappingsOfTable tableAscending]
  simp only [greatest_of_readFields fieldsRead, Maps]
  constructor
  · rintro ⟨key, text, ⟨document, greatest, textRead⟩, same⟩
    exact ⟨key, document, text, greatest, textRead, same⟩
  · rintro ⟨key, document, text, greatest, textRead, same⟩
    exact ⟨key, text, ⟨document, greatest, textRead⟩, same⟩

end Document

end LanguageDetection
