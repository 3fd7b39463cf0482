import LanguageDetection.Proofs.Document.Json

/-!
Documents read back from their text: what is written in either layout reads as the values that the
document holds.
-/

namespace LanguageDetection

open LanguageDetection.Decimal

namespace Json

theorem skipBlanks_append {blanks : List Char} (areBlank : ∀ c ∈ blanks, isBlank c = true)
    (chars : List Char) : skipBlanks (blanks ++ chars) = skipBlanks chars :=
  List.dropWhile_append_of_pos areBlank

theorem skipBlanks_cons {c : Char} (notBlank : isBlank c = false) (rest : List Char) :
    skipBlanks (c :: rest) = c :: rest :=
  List.dropWhile_cons_of_neg (by rw [notBlank]; exact Bool.false_ne_true)

theorem endsNumeral_append {blanks chars : List Char} (areBlank : ∀ c ∈ blanks, isBlank c = true)
    (ends : EndsNumeral chars) : EndsNumeral (blanks ++ chars) := by
  cases blanks with
  | nil => exact ends
  | cons c rest =>
      rintro c ⟨⟩
      have isBlank := areBlank c List.mem_cons_self
      simp only [Json.isBlank, Bool.or_eq_true, beq_iff_eq] at isBlank
      rcases isBlank with ((rfl | rfl) | rfl) | rfl <;> decide

theorem ofCode?_hexDigit {n : ℕ} (control : n < 0x20) :
    ofCode? ['0', '0', Document.hexDigit (n / 16), Document.hexDigit (n % 16)] =
      some (Char.ofNat n) := by
  interval_cases n <;> rfl

theorem readText?_escape {letter c : Char} (notCode : letter ≠ 'u') (known : unescape? letter = some c)
    (rest : List Char) :
    readText? ('\\' :: letter :: rest) =
      (readText? rest).map fun (others, rest) => (c :: others, rest) := by
  rw [readText?.eq_def]
  split
  · contradiction
  · rename_i same
    exact absurd (List.cons.inj same).1 (by decide)
  · rename_i same
    exact absurd (List.cons.inj (List.cons.inj same).2).1 notCode
  · rename_i same
    obtain ⟨rfl, rfl⟩ := List.cons.inj (List.cons.inj same).2
    rw [known]
    cases readText? rest <;> rfl
  · rename_i notEscape same
    obtain ⟨rfl, rfl⟩ := List.cons.inj same
    exact absurd rfl (notEscape letter rest rfl)

theorem readText?_escapeChar (c : Char) (rest : List Char) :
    readText? (Document.escapeChar c ++ rest) =
      (readText? rest).map fun (others, rest) => (c :: others, rest) := by
  unfold Document.escapeChar
  split_ifs with quote backslash newline return' tab backspace feed control
  all_goals simp only [beq_iff_eq] at *
  · subst quote
    exact readText?_escape (by decide) rfl rest
  · subst backslash
    exact readText?_escape (by decide) rfl rest
  · subst newline
    exact readText?_escape (by decide) rfl rest
  · subst return'
    exact readText?_escape (by decide) rfl rest
  · subst tab
    exact readText?_escape (by decide) rfl rest
  · subst backspace
    exact readText?_escape (by decide) rfl rest
  · subst feed
    exact readText?_escape (by decide) rfl rest
  · have code := ofCode?_hexDigit control
    rw [Char.ofNat_toNat] at code
    simp only [List.cons_append, List.nil_append, readText?, code]
    cases readText? rest <;> rfl
  · rw [List.singleton_append, readText?.eq_def]
    split
    · contradiction
    · rename_i same
      exact absurd (List.cons.inj same).1 quote
    · rename_i same
      exact absurd (List.cons.inj same).1 backslash
    · rename_i same
      exact absurd (List.cons.inj same).1 backslash
    · rename_i same
      obtain ⟨rfl, rfl⟩ := List.cons.inj same
      cases readText? rest with
      | none => rfl
      | some read => exact if_neg control

theorem readText?_quote (text : String) :
    ∃ body, (Document.quote text).toList = '"' :: body ∧
      ∀ rest, readText? (body ++ rest) = some (text.toList, rest) := by
  refine ⟨text.toList.flatMap Document.escapeChar ++ ['"'], ?_, ?_⟩
  · simp only [Document.quote, String.toList_append, String.toList_ofList]
    rfl
  · intro rest
    rw [List.append_assoc]
    induction text.toList with
    | nil => rfl
    | cons c others ih => rw [List.flatMap_cons, List.append_assoc, readText?_escapeChar, ih]; rfl

def closers : List Char := [']', '\x7d']

/-- Whether a text reads as a value, after blanks and before what cannot be a part of it. It does not
begin with a blank itself, or by closing a bracket. -/
structure Reads {α : Type} (read : List Char → Option (α × List Char)) (text : List Char)
    (value : α) : Prop where
  begins : ∃ c rest, text = c :: rest ∧ isBlank c = false ∧ c ∉ closers
  reads : ∀ blanks rest, (∀ c ∈ blanks, isBlank c = true) → EndsNumeral rest →
    read (blanks ++ text ++ rest) = some (value, rest)

section

variable {α : Type} {read : List Char → Option (α × List Char)} {closing : Char}

theorem endsNumeral_closing (closes : closing ∈ closers) (rest : List Char) :
    EndsNumeral (closing :: rest) := by
  rintro c ⟨⟩
  simp only [closers, List.mem_cons, List.not_mem_nil, or_false] at closes
  rcases closes with rfl | rfl <;> decide

theorem isBlank_closing (closes : closing ∈ closers) : isBlank closing = false := by
  simp only [closers, List.mem_cons, List.not_mem_nil, or_false] at closes
  rcases closes with rfl | rfl <;> rfl

theorem readSome?_last (closes : closing ∈ closers) {text : List Char} {value : α}
    (reads : Reads read text value) {before after : List Char}
    (beforeBlank : ∀ c ∈ before, isBlank c = true) (afterBlank : ∀ c ∈ after, isBlank c = true)
    (rest : List Char) (fuel : ℕ) :
    readSome? read closing (fuel + 1) (before ++ text ++ (after ++ closing :: rest)) =
      some ([value], rest) := by
  have ends : EndsNumeral (after ++ closing :: rest) :=
    endsNumeral_append afterBlank (endsNumeral_closing closes rest)
  have skipped : skipBlanks (after ++ closing :: rest) = closing :: rest := by
    rw [skipBlanks_append afterBlank, skipBlanks_cons (isBlank_closing closes)]
  rw [readSome?, reads.reads before _ beforeBlank ends]
  simp only [Option.bind_eq_bind, Option.bind_some, skipped, if_true]
  rfl

theorem readSome?_next (closes : closing ∈ closers) {text : List Char} {value : α}
    (reads : Reads read text value) {before : List Char}
    (beforeBlank : ∀ c ∈ before, isBlank c = true) {chars rest : List Char} {values : List α}
    {fuel : ℕ} (later : readSome? read closing fuel chars = some (values, rest)) :
    readSome? read closing (fuel + 1) (before ++ text ++ ',' :: chars) =
      some (value :: values, rest) := by
  have notClosing : ',' ≠ closing := by
    rintro rfl
    exact absurd closes (by decide)
  have ends : EndsNumeral (',' :: chars) := by
    rintro c ⟨⟩
    decide
  have skipped : skipBlanks (',' :: chars) = ',' :: chars := rfl
  rw [readSome?, reads.reads before _ beforeBlank ends]
  simp only [Option.bind_eq_bind, Option.bind_some, skipped, if_neg notClosing, if_true, later]
  rfl

theorem readSome?_intercalate (closes : closing ∈ closers) {texts : List (List Char)}
    {values : List α} (reads : List.Forall₂ (Reads read) texts values) (nonempty : texts ≠ [])
    {gap after : List Char} (gapBlank : ∀ c ∈ gap, isBlank c = true)
    (afterBlank : ∀ c ∈ after, isBlank c = true) (rest : List Char) {fuel : ℕ}
    (enough : texts.length ≤ fuel) {before : List Char}
    (beforeBlank : ∀ c ∈ before, isBlank c = true) :
    readSome? read closing fuel
        (before ++ List.intercalate (',' :: gap) texts ++ (after ++ closing :: rest)) =
      some (values, rest) := by
  -- With any blanks in front, since those of the gap come before all items but the first.
  induction reads generalizing fuel before with
  | nil => contradiction
  | @cons text value texts values reads others ih =>
      obtain ⟨fuel, rfl⟩ : ∃ fewer, fuel = fewer + 1 := by
        cases fuel with
        | zero => contradiction
        | succ fewer => exact ⟨fewer, rfl⟩
      cases others with
      | nil =>
          rw [List.intercalate_singleton]
          exact readSome?_last closes reads beforeBlank afterBlank rest fuel
      | @cons text' value' texts values reads' others =>
          rw [List.intercalate_cons_cons]
          simpa only [List.append_assoc, List.cons_append] using
            readSome?_next closes reads beforeBlank
              (ih (List.cons_ne_nil _ _) (Nat.le_of_succ_le_succ enough) gapBlank)

theorem isBlank_of_mem_lineBreak (layout : Document.Layout) :
    ∀ c ∈ layout.lineBreak.toList, isBlank c = true := by
  cases layout with
  | compact => exact List.forall_mem_nil _
  | pretty depth =>
      intro c member
      rw [Document.Layout.lineBreak, String.toList_ofList] at member
      rcases List.mem_cons.mp member with rfl | member
      · rfl
      · rw [List.eq_of_mem_replicate member]
        rfl

theorem readMany?_enclose (closes : closing ∈ closers) {parts : List String} {values : List α}
    (reads : List.Forall₂ (fun part value => Reads read part.toList value) parts values)
    {fuel : ℕ} (enough : parts.length ≤ fuel) (layout : Document.Layout) (opening : Char) :
    ∃ body, (layout.enclose opening closing parts).toList = opening :: body ∧
      ∀ rest, readMany? read closing fuel (body ++ rest) = some (values, rest) := by
  have readsTexts : List.Forall₂ (Reads read) (parts.map String.toList) values :=
    List.forall₂_map_left_iff.mpr reads
  cases reads with
  | nil =>
      refine ⟨[closing], by simp [Document.Layout.enclose], fun rest => ?_⟩
      rw [List.singleton_append, readMany?, skipBlanks_cons (isBlank_closing closes)]
      exact if_pos rfl
  | @cons part value others values first rest =>
      let gap := layout.inner.lineBreak.toList
      let joined := List.intercalate (',' :: gap) ((part :: others).map String.toList)
      refine ⟨gap ++ joined ++ layout.lineBreak.toList ++ [closing], ?_, fun rest => ?_⟩
      · simp [Document.Layout.enclose, String.toList_intercalate, joined, gap]
      · obtain ⟨c, tail, head, notBlank, notClosing⟩ := first.begins
        obtain ⟨more, begins⟩ : ∃ more, joined = c :: more := by
          cases others with
          | nil => exact ⟨tail, by simp [joined, head]⟩
          | cons other others =>
              simp only [joined, List.map_cons, List.intercalate_cons_cons, head, List.cons_append]
              exact ⟨_, rfl⟩
        have different : c ≠ closing := by
          rintro rfl
          exact notClosing closes
        have read := readSome?_intercalate closes readsTexts (List.cons_ne_nil _ _)
          (isBlank_of_mem_lineBreak layout.inner) (isBlank_of_mem_lineBreak layout) rest
          (List.length_map _ |>.trans_le enough) (List.forall_mem_nil _)
        rw [begins, List.append_assoc, List.append_assoc, List.append_assoc, readMany?,
          skipBlanks_append (isBlank_of_mem_lineBreak layout.inner), List.cons_append,
          skipBlanks_cons notBlank]
        simp only [if_neg different]
        rw [← List.cons_append, ← begins]
        exact read

theorem Reads.field {text : String} {value : α} (reads : Reads read text.toList value)
    (layout : Document.Layout) (name : String) :
    Reads (readField? read) (Document.quote name ++ layout.colon ++ text).toList (name, value) := by
  obtain ⟨body, quoted, unquoted⟩ := readText?_quote name
  obtain ⟨gap, colon, areBlank⟩ : ∃ gap, layout.colon.toList = ':' :: gap ∧
      ∀ c ∈ gap, isBlank c = true := by
    cases layout with
    | compact => exact ⟨[], rfl, List.forall_mem_nil _⟩
    | pretty depth =>
        have spaced : ": ".toList = [':', ' '] := by decide
        exact ⟨[' '], spaced, List.forall_mem_singleton.mpr rfl⟩
  rw [String.toList_append, String.toList_append, quoted, colon]
  refine ⟨⟨'"', _, rfl, rfl, by decide⟩, ?_⟩
  intro blanks rest blanksBlank ends
  have read := reads.reads gap rest areBlank ends
  have rearranged : blanks ++ ('"' :: body ++ ':' :: gap ++ text.toList) ++ rest =
      blanks ++ '"' :: (body ++ ':' :: (gap ++ text.toList ++ rest)) := by
    simp only [List.append_assoc, List.cons_append]
  rw [rearranged, readField?, skipBlanks_append blanksBlank, skipBlanks_cons rfl]
  simp only [unquoted, Option.bind_eq_bind, Option.bind_some]
  rw [skipBlanks_cons rfl]
  simp only [read, Option.bind_some, String.ofList_toList]
  rfl

theorem add_length_le_intercalate (separator : Char) (gap : List Char) (texts : List (List Char)) :
    (texts.map List.length).sum + texts.length ≤
      (List.intercalate (separator :: gap) texts).length + 1 := by
  induction texts with
  | nil => exact Nat.zero_le 1
  | cons text others ih =>
      cases others with
      | nil => simp
      | cons other others =>
          simp only [List.intercalate_cons_cons, List.map_cons, List.sum_cons, List.length_cons,
            List.length_append] at ih ⊢
          omega

theorem add_length_lt_enclose (layout : Document.Layout) (opening closing : Char)
    (parts : List String) :
    (parts.map String.length).sum + parts.length <
      (layout.enclose opening closing parts).length := by
  cases parts with
  | nil => simp [Document.Layout.enclose]
  | cons part others =>
      have inside := add_length_le_intercalate ',' layout.inner.lineBreak.toList
        ((part :: others).map String.toList)
      have comma : ("," ++ layout.inner.lineBreak).toList = ',' :: layout.inner.lineBreak.toList := by
        simp
      have lengths : ((part :: others).map String.toList).map List.length =
          (part :: others).map String.length := by
        rw [List.map_map]
        exact List.map_congr_left fun _ _ => String.length_toList
      have joined : (String.intercalate ("," ++ layout.inner.lineBreak) (part :: others)).length =
          (List.intercalate (',' :: layout.inner.lineBreak.toList)
            ((part :: others).map String.toList)).length := by
        rw [← String.length_toList, String.toList_intercalate, comma]
      rw [lengths, List.length_map, ← joined] at inside
      simp only [Document.Layout.enclose, String.length_append, String.length_singleton]
      omega

end

end Json

namespace Document

open Json

mutual
/-- What a document holds. A double that is not finite is not told from null. -/
def json : Document → Json
  | .null => .null
  | .bool value => .bool value
  | .unsigned value => .number value
  | .signed value => .number value
  | .float value => (written? value).elim .null .number
  | .text value => .text value
  | .char value => .text (String.singleton value)
  | .array items => .array (jsonItems items)
  | .object fields => .object (jsonFields fields)

def jsonItems : List Document → List Json
  | [] => []
  | item :: rest => item.json :: jsonItems rest

def jsonFields : List (String × Document) → List (String × Json)
  | [] => []
  | (name, value) :: rest => (name, value.json) :: jsonFields rest
end

theorem jsonItems_map {α : Type} (document : α → Document) (values : List α) :
    jsonItems (values.map document) = values.map fun value => (document value).json := by
  induction values with
  | nil => rfl
  | cons value rest ih => rw [List.map_cons, List.map_cons, jsonItems, ih]

theorem jsonFields_append (fields others : List (String × Document)) :
    jsonFields (fields ++ others) = jsonFields fields ++ jsonFields others := by
  induction fields with
  | nil => rfl
  | cons field rest ih => rw [List.cons_append, jsonFields, jsonFields, ih, List.cons_append]

theorem readValue?_append {blanks : List Char} (areBlank : ∀ c ∈ blanks, isBlank c = true)
    (fuel : ℕ) (chars : List Char) : readValue? fuel (blanks ++ chars) = readValue? fuel chars := by
  cases fuel with
  | zero => rfl
  | succ fuel => rw [readValue?, readValue?, skipBlanks_append areBlank]

theorem reads_of_readValue? {c : Char} {text : List Char} {value : Json} {fuel : ℕ}
    (notBlank : isBlank c = false) (notClosing : c ∉ closers)
    (reads : ∀ rest, EndsNumeral rest → readValue? fuel (c :: text ++ rest) = some (value, rest)) :
    Reads (readValue? fuel) (c :: text) value where
  begins := ⟨c, text, rfl, notBlank, notClosing⟩
  reads blanks rest areBlank ends := by
    rw [List.append_assoc, readValue?_append areBlank]
    exact reads rest ends

section

variable {fuel : ℕ}

theorem reads_null : Reads (readValue? (fuel + 1)) "null".toList .null := by
  have reads : Reads (readValue? (fuel + 1)) ['n', 'u', 'l', 'l'] .null :=
    reads_of_readValue? rfl (by decide) fun rest _ => rfl
  exact reads

theorem reads_bool (value : Bool) :
    Reads (readValue? (fuel + 1)) (if value then "true" else "false").toList (.bool value) := by
  cases value with
  | true =>
      have reads : Reads (readValue? (fuel + 1)) ['t', 'r', 'u', 'e'] (.bool true) :=
        reads_of_readValue? rfl (by decide) fun rest _ => rfl
      exact reads
  | false =>
      have reads : Reads (readValue? (fuel + 1)) ['f', 'a', 'l', 's', 'e'] (.bool false) :=
        reads_of_readValue? rfl (by decide) fun rest _ => rfl
      exact reads

theorem reads_of_isNumeral {text : List Char} {q : ℚ} (numeral : IsNumeral text q) :
    Reads (readValue? (fuel + 1)) text (.number q) := by
  obtain ⟨c, text, rfl, starts⟩ := numeral.exists_cons
  have other (d : Char) (notSign : d ≠ '-') (notDigit : d.isDigit = false) : c ≠ d := by
    rintro rfl
    rcases starts with rfl | isDigit
    · exact notSign rfl
    · exact Bool.false_ne_true (notDigit.symm.trans isDigit)
  have notBlank : isBlank c = false := by
    simp [isBlank, other ' ', other '\n', other '\r', other '\t']
  have isStart : (c = '-' || c.isDigit) = true := by simpa using starts
  refine reads_of_readValue? notBlank ?_ ?_
  · simp [closers, other ']', other '\x7d']
  · intro rest ends
    have read := numeral rest ends
    rw [List.cons_append] at read
    rw [List.cons_append, readValue?, skipBlanks_cons notBlank]
    simp only [if_neg (other '"' (by decide) rfl), if_neg (other '[' (by decide) rfl),
      if_neg (other '\x7b' (by decide) rfl), read]
    exact if_pos isStart

theorem reads_quote (text : String) :
    Reads (readValue? (fuel + 1)) (quote text).toList (.text text) := by
  obtain ⟨body, quoted, read⟩ := readText?_quote text
  rw [quoted]
  refine reads_of_readValue? rfl (by decide) fun rest _ => ?_
  have unquoted := read rest
  rw [List.cons_append, readValue?, skipBlanks_cons rfl]
  simp only [if_true, unquoted, Option.map_some, String.ofList_toList]

theorem exists_fuel_of_enclose (layout : Layout) (opening closing : Char) {parts : List String}
    (enough : (layout.enclose opening closing parts).length
      ≤ fuel) :
    ∃ less, fuel = less + 1 ∧ parts.length ≤ less ∧ ∀ part ∈ parts, part.length ≤ less := by
  have inside := (add_length_lt_enclose layout opening closing parts).trans_le enough
  refine ⟨fuel - 1, by omega, by omega, fun part member => ?_⟩
  have single : part.length ≤ (parts.map String.length).sum :=
    List.single_le_sum (fun _ _ => Nat.zero_le _) _ (List.mem_map_of_mem member)
  omega

theorem reads_array (layout : Layout) {parts : List String} {items : List Json}
    (reads : List.Forall₂ (fun part value => Reads (readValue? fuel) part.toList value) parts items)
    (few : parts.length ≤ fuel) :
    Reads (readValue? (fuel + 1)) (layout.enclose '[' ']' parts).toList (.array items) := by
  have closes : ']' ∈ closers := by decide
  obtain ⟨body, text, read⟩ := readMany?_enclose closes reads few layout '['
  rw [text]
  refine reads_of_readValue? rfl (by decide) fun rest _ => ?_
  have unbracketed := read rest
  rw [List.cons_append, readValue?, skipBlanks_cons rfl]
  simp only [if_true, unbracketed, Option.map_some]
  rfl

theorem reads_object (layout : Layout) {parts : List String} {fields : List (String × Json)}
    (reads : List.Forall₂ (fun part field => Reads (readField? (readValue? fuel)) part.toList field)
      parts fields)
    (few : parts.length ≤ fuel) :
    Reads (readValue? (fuel + 1)) (layout.enclose '\x7b' '\x7d' parts).toList (.object fields) := by
  have closes : '\x7d' ∈ closers := by decide
  obtain ⟨body, text, read⟩ := readMany?_enclose closes reads few layout '\x7b'
  rw [text]
  refine reads_of_readValue? rfl (by decide) fun rest _ => ?_
  have unbracketed := read rest
  rw [List.cons_append, readValue?, skipBlanks_cons rfl]
  simp only [if_true, unbracketed, Option.map_some]
  rfl

end

mutual
theorem reads_write (layout : Layout) (document : Document) {fuel : ℕ}
    (enough : (document.write layout).length ≤ fuel) :
    Reads (readValue? (fuel + 1)) (document.write layout).toList document.json := by
  cases document with
  | null => exact reads_null
  | bool value => exact reads_bool value
  | unsigned value => exact reads_of_isNumeral (isNumeral_toString value)
  | signed value => exact reads_of_isNumeral (isNumeral_toString_int value)
  | float value =>
      rw [write, json]
      cases written : written? value with
      | none =>
          rw [floatText_of_written?_eq_none written]
          exact reads_null
      | some number => exact reads_of_isNumeral (isNumeral_floatText written)
  | text value => exact reads_quote value
  | char value => exact reads_quote (String.singleton value)
  | array items =>
      obtain ⟨less, rfl, few, short⟩ := exists_fuel_of_enclose layout '[' ']' enough
      have parts := reads_writeItems layout.inner items short
      exact reads_array layout parts (few.trans (Nat.le_succ less))
  | object fields =>
      obtain ⟨less, rfl, few, short⟩ := exists_fuel_of_enclose layout '\x7b' '\x7d' enough
      have parts := reads_writeFields layout.inner fields short
      exact reads_object layout parts (few.trans (Nat.le_succ less))

theorem reads_writeItems (layout : Layout) (items : List Document) {fuel : ℕ}
    (enough : ∀ part ∈ writeItems layout items, part.length ≤ fuel) :
    List.Forall₂ (fun part value => Reads (readValue? (fuel + 1)) part.toList value)
      (writeItems layout items) (jsonItems items) := by
  cases items with
  | nil => exact .nil
  | cons item rest =>
      obtain ⟨first, others⟩ := List.forall_mem_cons.mp enough
      exact .cons (reads_write layout item first) (reads_writeItems layout rest others)

theorem reads_writeFields (layout : Layout) (fields : List (String × Document)) {fuel : ℕ}
    (enough : ∀ part ∈ writeFields layout fields, part.length ≤ fuel) :
    List.Forall₂ (fun part field => Reads (readField? (readValue? (fuel + 1))) part.toList field)
      (writeFields layout fields) (jsonFields fields) := by
  cases fields with
  | nil => exact .nil
  | cons field rest =>
      obtain ⟨first, others⟩ := List.forall_mem_cons.mp enough
      have short : (field.2.write layout).length ≤ fuel := by
        rw [String.length_append] at first
        omega
      have value := reads_write layout field.2 short
      exact .cons (value.field layout field.1) (reads_writeFields layout rest others)
end

/-- What is written of a document reads as what the document holds. -/
theorem read?_write (document : Document) (layout : Layout) :
    Json.read? (document.write layout ++ "\n") = some document.json := by
  have reads := (reads_write layout document (Nat.le_succ _)).reads [] ['\n']
    (List.forall_mem_nil _) (by rintro c ⟨⟩; decide)
  have text : (document.write layout ++ "\n").toList = (document.write layout).toList ++ ['\n'] :=
    String.toList_append
  have length : (document.write layout ++ "\n").length = (document.write layout).length + 1 :=
    String.length_append _ _
  rw [Json.read?, text, length]
  rw [List.nil_append] at reads
  simp only [reads]
  rfl

example : Json.read? "[\n  true,\n  \"a\\\"b\"\n]\n" = some (.array [.bool true, .text "a\"b"]) := by
  rfl

example : Json.read? "[true,]" = none := by rfl

end Document

end LanguageDetection
