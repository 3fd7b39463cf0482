import LanguageDetection.Proofs.Files.Order
import LanguageDetection.Proofs.Text.Split

/-!
What a path says besides its spelling. Dots between slashes, repeated slashes and slashes at the end
make no difference to the parts of a path; a dot at the start of a relative path does. So at most two
of several paths with different parts say the same.
-/

namespace LanguageDetection.Files

open LanguageDetection.Text

/-- A path without dots for directories themselves and without slashes that separate nothing. -/
structure PlainPath where
  isAbsolute : Bool
  names : List String
  deriving Repr, DecidableEq

def isLeading (piece : String) : Bool :=
  !piece.isEmpty && piece != "."

namespace Path

def plain (path : Path) : PlainPath :=
  ⟨path.isAbsolute, (split '/' path).filter isLeading⟩

/-- Whether the path is relative and starts with a dot for the directory that it starts at. -/
def isDotted (path : Path) : Bool :=
  (split '/' path).head? == some "."

end Path

namespace Part

def ofLeading (piece : String) : Part :=
  if piece = ".." then .parent else .name piece

def leading? : Part → Option String
  | .root | .here => none
  | .parent => some ".."
  | .name text => some text

@[simp] theorem leading?_ofLeading (piece : String) : (ofLeading piece).leading? = some piece := by
  unfold ofLeading
  split
  · rename_i parent
    rw [parent, leading?]
  · rfl

theorem ofLeading_ne_root (piece : String) : ofLeading piece ≠ .root := by
  unfold ofLeading
  split <;> exact Part.noConfusion

theorem ofLeading_ne_here (piece : String) : ofLeading piece ≠ .here := by
  unfold ofLeading
  split <;> exact Part.noConfusion

theorem ofPiece?_false (piece : String) :
    ofPiece? false piece = if isLeading piece then some (ofLeading piece) else none := by
  unfold ofPiece? isLeading ofLeading
  by_cases empty : piece.isEmpty = true
  · simp [empty]
  · by_cases dot : piece = "."
    · simp [dot]
    · simp only [empty, dot, beq_iff_eq, if_false, Bool.false_eq_true]
      by_cases up : piece = ".."
      · simp [up]
      · simp [up, dot]

theorem filterMap_ofPiece? (pieces : List String) :
    pieces.filterMap (ofPiece? false) = (pieces.filter isLeading).map ofLeading := by
  induction pieces with
  | nil => rfl
  | cons piece rest ih =>
      rw [List.filterMap_cons, ofPiece?_false, ih, List.filter_cons]
      split <;> rename_i leading
      · split at leading
        · contradiction
        · rename_i passed
          rw [if_neg passed]
      · split at leading
        · rename_i passed
          obtain rfl := Option.some.inj leading
          rw [if_pos passed, List.map_cons]
        · contradiction

end Part

namespace Path

def beginning (path : Path) : List Part :=
  if path.isAbsolute then [.root] else if path.isDotted then [.here] else []

theorem exists_split_of_isAbsolute {path : Path} (absolute : path.isAbsolute = true) :
    ∃ rest, split '/' path = "" :: rest := by
  rw [isAbsolute, beq_iff_eq, List.head?_eq_some_iff] at absolute
  obtain ⟨chars, starts⟩ := absolute
  exact ⟨(splitChars '/' chars).map String.ofList, by rw [split, starts]; rfl⟩

theorem isDotted_of_isAbsolute {path : Path} (absolute : path.isAbsolute = true) :
    path.isDotted = false := by
  obtain ⟨rest, starts⟩ := exists_split_of_isAbsolute absolute
  rw [isDotted, starts]
  rfl

theorem parts_eq (path : Path) :
    path.parts = path.beginning ++ path.plain.names.map Part.ofLeading := by
  cases absolute : path.isAbsolute with
  | true =>
      obtain ⟨rest, pieces⟩ := exists_split_of_isAbsolute absolute
      simp only [parts, beginning, plain, pieces, absolute, if_true, Part.filterMap_ofPiece?]
      rfl
  | false =>
      cases pieces : split '/' path with
      | nil => exact absurd pieces (split_ne_nil '/' path)
      | cons first rest =>
          have dotted : path.isDotted = (first == ".") := by
            rw [isDotted, pieces]
            rfl
          simp only [parts, beginning, plain, pieces, absolute, dotted, Bool.false_eq_true,
            if_false, Part.filterMap_ofPiece?]
          by_cases dot : first = "."
          · subst dot
            rfl
          · have sameAsLater : Part.ofPiece? true first = Part.ofPiece? false first := by
              simp [Part.ofPiece?, dot]
            rw [sameAsLater, Part.ofPiece?_false, beq_eq_false_iff_ne.mpr dot, List.filter_cons]
            cases isLeading first <;> rfl

theorem plain_names_eq (path : Path) : path.plain.names = path.parts.filterMap Part.leading? := by
  have noNames : path.beginning.filterMap Part.leading? = [] := by
    unfold beginning
    split
    · rfl
    · split <;> rfl
  rw [parts_eq, List.filterMap_append, noNames, List.nil_append, List.filterMap_map]
  simp

theorem head?_parts (path : Path) :
    path.parts.head? = if path.isAbsolute then some .root else
      if path.isDotted then some .here else path.plain.names.head?.map Part.ofLeading := by
  rw [parts_eq, beginning]
  split
  · rfl
  · split
    · rfl
    · rw [List.nil_append, List.head?_map]

theorem isAbsolute_eq (path : Path) : path.isAbsolute = (path.parts.head? == some .root) := by
  rw [Bool.eq_iff_iff, beq_iff_eq, head?_parts]
  cases path.isAbsolute <;> cases path.isDotted <;> simp [Part.ofLeading_ne_root]

theorem isDotted_eq (path : Path) : path.isDotted = (path.parts.head? == some .here) := by
  rw [Bool.eq_iff_iff, beq_iff_eq, head?_parts]
  cases absolute : path.isAbsolute with
  | true => simp [isDotted_of_isAbsolute absolute]
  | false => cases path.isDotted <;> simp [Part.ofLeading_ne_here]

/-- Paths have the same parts if they say the same and start alike. -/
theorem parts_eq_iff {path other : Path} :
    path.parts = other.parts ↔ path.plain = other.plain ∧ path.isDotted = other.isDotted := by
  constructor
  · intro same
    have absolute : path.plain.isAbsolute = other.plain.isAbsolute := by
      rw [plain, plain, isAbsolute_eq, isAbsolute_eq, same]
    have names : path.plain.names = other.plain.names := by
      rw [plain_names_eq, plain_names_eq, same]
    exact ⟨congrArg₂ PlainPath.mk absolute names, by rw [isDotted_eq, isDotted_eq, same]⟩
  · rintro ⟨same, alike⟩
    have absolute : path.isAbsolute = other.isAbsolute := congrArg PlainPath.isAbsolute same
    rw [parts_eq, parts_eq, beginning, beginning, absolute, alike, same]

end Path

section Enumerates

variable {listed given : List Path}

theorem countP_eq_toNat_any {α β : Type} {f : α → β} {p : α → Bool} {items : List α}
    (nodup : (items.map f).Nodup) (decides : ∀ a b, p a = true → p b = true → f a = f b) :
    items.countP p = (items.any p).toNat := by
  induction items with
  | nil => rfl
  | cons item rest ih =>
      rw [List.map_cons, List.nodup_cons] at nodup
      rw [List.countP_cons, List.any_cons, ih nodup.2]
      cases passes : p item with
      | false => simp
      | true =>
          have others : rest.any p = false := by
            rw [List.any_eq_false]
            intro other member otherPasses
            apply nodup.1
            rw [decides item other passes otherPasses]
            exact List.mem_map_of_mem member
          rw [others]
          rfl

namespace Path.Enumerates

theorem nodup_plain (enumerates : Enumerates listed given) :
    (listed.map fun path => (path.isDotted, path.plain)).Nodup := by
  have nodup := enumerates.nodup_parts
  rw [List.Nodup, List.pairwise_map] at nodup ⊢
  refine nodup.imp fun differ same => differ ?_
  exact parts_eq_iff.mpr ⟨congrArg Prod.snd same, congrArg Prod.fst same⟩

theorem nodup_plain_of_alike (enumerates : Enumerates listed given) {dotted : Bool}
    (alike : ∀ path ∈ given, path.isDotted = dotted) : (listed.map plain).Nodup := by
  have same : (listed.map fun path => (path.isDotted, path.plain)) =
      (listed.map plain).map (Prod.mk dotted) := by
    rw [List.map_map]
    refine List.map_congr_left fun path member => ?_
    rw [Function.comp_apply, alike path (enumerates.sound path member)]
  exact List.Nodup.of_map _ (same ▸ enumerates.nodup_plain)

theorem countP_eq (enumerates : Enumerates listed given) (dotted : Bool) (form : PlainPath) :
    listed.countP (fun path => path.plain == form && path.isDotted == dotted) =
      (given.any fun path => path.plain == form && path.isDotted == dotted).toNat := by
  rw [countP_eq_toNat_any enumerates.nodup_parts]
  · congr 1
    rw [Bool.eq_iff_iff]
    simp only [List.any_eq_true, Bool.and_eq_true, beq_iff_eq]
    constructor
    · rintro ⟨path, member, passes⟩
      exact ⟨path, enumerates.sound path member, passes⟩
    · rintro ⟨path, member, isForm, starts⟩
      obtain ⟨other, found, same⟩ := enumerates.complete path member
      obtain ⟨sameForm, alike⟩ := parts_eq_iff.mp (beq_iff_eq.mp same)
      exact ⟨other, found, sameForm.trans isForm, alike.trans starts⟩
  · intro path other passes otherPasses
    simp only [Bool.and_eq_true, beq_iff_eq] at passes otherPasses
    exact parts_eq_iff.mpr
      ⟨passes.1.trans otherPasses.1.symm, passes.2.trans otherPasses.2.symm⟩

/-- What paths say is listed once for those with a dot at the start and once for the others. -/
theorem count_plain (enumerates : Enumerates listed given) (form : PlainPath) :
    (listed.map plain).count form =
      ((given.filter isDotted).any (·.plain == form)).toNat +
        ((given.filter (!·.isDotted)).any (·.plain == form)).toNat := by
  have dotted := enumerates.countP_eq true form
  have undotted := enumerates.countP_eq false form
  simp only [beq_true, beq_false] at dotted undotted
  rw [List.count, List.countP_map, List.countP_eq_countP_filter_add _ _ isDotted,
    List.countP_filter, List.countP_filter, List.any_filter, List.any_filter]
  simp only [Function.comp_apply, dotted, undotted]
  simp only [Bool.and_comm]

end Path.Enumerates

end Enumerates

/-- What can be the name of something in a directory. -/
structure IsName (name : String) : Prop where
  ne_empty : name ≠ ""
  ne_here : name ≠ "."
  noSlash : '/' ∉ name.toList

instance (name : String) : Decidable (IsName name) :=
  decidable_of_iff (name ≠ "" ∧ name ≠ "." ∧ '/' ∉ name.toList)
    ⟨fun ⟨ne_empty, ne_here, noSlash⟩ => ⟨ne_empty, ne_here, noSlash⟩,
      fun isName => ⟨isName.ne_empty, isName.ne_here, isName.noSlash⟩⟩

namespace Path

variable {name : String}

theorem isAbsolute_of_isName (isName : IsName name) : isAbsolute name = false := by
  rw [isAbsolute, beq_eq_false_iff_ne]
  intro starts
  exact isName.noSlash (List.mem_of_mem_head? starts)

/-- The last piece of the directory is replaced if it is empty; otherwise there is a piece more. -/
theorem exists_split_join (directory : Path) (isName : IsName name) : ∃ pieces,
    (split '/' directory = pieces ∨ split '/' directory = pieces ++ [""]) ∧
      split '/' (join directory name) = pieces ++ [name] := by
  rw [join, isAbsolute_of_isName isName, if_neg Bool.false_ne_true]
  split
  · rename_i ends
    rw [Bool.or_eq_true, String.isEmpty_iff, beq_iff_eq] at ends
    rcases ends with rfl | ends
    · refine ⟨[], Or.inr rfl, ?_⟩
      rw [String.empty_append, split_of_not_mem isName.noSlash, List.nil_append]
    · obtain ⟨chars, apart⟩ := List.getLast?_eq_some_iff.mp ends
      have before : directory.toList = (String.ofList chars).toList ++ '/' :: "".toList := by
        rw [String.toList_ofList]
        exact apart
      refine ⟨split '/' (String.ofList chars), Or.inr ?_, ?_⟩
      · rw [split_eq_append before]
        rfl
      · have joined : (directory ++ name).toList =
            (String.ofList chars).toList ++ '/' :: name.toList := by
          rw [String.toList_append, before]
          simp
        rw [split_eq_append joined, split_of_not_mem isName.noSlash]
  · have joined : (directory ++ "/" ++ name).toList = directory.toList ++ '/' :: name.toList := by
      simp
    exact ⟨split '/' directory, Or.inl rfl, by
      rw [split_eq_append joined, split_of_not_mem isName.noSlash]⟩

theorem isDotted_join (directory : Path) (isName : IsName name) :
    isDotted (join directory name) = isDotted directory := by
  obtain ⟨pieces, ofDirectory, joined⟩ := exists_split_join directory isName
  rw [isDotted, isDotted, joined]
  cases pieces with
  | cons first rest => rcases ofDirectory with same | same <;> rw [same] <;> rfl
  | nil =>
      rcases ofDirectory with same | same
      · exact absurd same (split_ne_nil '/' directory)
      · rw [same]
        simp [isName.ne_here]

end Path

end LanguageDetection.Files
