import LanguageDetection.Files.Tree
import LanguageDetection.Files.Walk
import LanguageDetection.Proofs.Files.Plain

/-!
How a walk spells what it finds: like the directory that it starts at.
-/

namespace LanguageDetection.Files

/-- A file system whose directories list names only. -/
structure FileSystem.ListsNames (files : FileSystem Id) : Prop where
  isName : ∀ directory entries, (files.entries directory).run = .ok entries →
    ∀ entry ∈ entries, IsName entry.name

theorem mem_flatMapM_iff {α β : Type} {f : α → Id (List β)} {items : List α} {b : β} :
    b ∈ (items.flatMapM f).run ↔ ∃ item ∈ items, b ∈ (f item).run := by
  induction items with
  | nil => simp
  | cons item rest ih => simp [ih]

section Walk

variable {files : FileSystem Id} {options : WalkOptions}

theorem ne_file_of_entryKind {state : WalkState} {path : Path} {type : EntryType} {found : Found}
    (failed : (entryKind files options state path type).run = .error found) (other : Path) :
    found ≠ .file other := by
  have ofFault {fault : String}
      (same : (.error (.fault fault) : Except Found Kind) = .error found) : found ≠ .file other := by
    obtain rfl := Except.error.inj same
    exact Found.noConfusion
  cases type with
  | plain kind => contradiction
  | link =>
      rw [entryKind] at failed
      split at failed
      · contradiction
      · rw [Id.run_bind] at failed
        split at failed
        · exact ofFault failed
        · split at failed
          · rw [Id.run_bind] at failed
            split at failed
            · exact ofFault failed
            · split at failed
              · exact ofFault failed
              · contradiction
          · contradiction

/-- The files that a walk finds in a directory are those that the directory lists, and what is found
in the directories that it lists, but for what is skipped. -/
theorem file_mem_walkInside_iff {depth : Nat} {state : WalkState} {directory path : Path} :
    Found.file path ∈ (walkInside files options (depth + 1) state directory).run ↔
      ∃ entries, (files.entries directory).run = .ok entries ∧ ∃ entry ∈ entries, ∃ kind,
        (entryKind files options (state.enter files options directory).run
          (Path.join directory entry.name) entry.type).run = .ok kind ∧
        (state.enter files options directory).run.skips (Path.join directory entry.name) entry.name
          (kind == .directory) = false ∧
        (kind = .file ∧ path = Path.join directory entry.name ∨
          kind = .directory ∧ Found.file path ∈ (walkInside files options depth
            (state.enter files options directory).run (Path.join directory entry.name)).run) := by
  rw [walkInside, Id.run_bind, Id.run_bind]
  generalize (state.enter files options directory).run = entered
  cases listed : (files.entries directory).run with
  | error error => simp [failedOperation]
  | ok entries =>
      simp only [mem_flatMapM_iff, List.mem_mergeSort, Id.run_bind, Except.ok.injEq,
        exists_eq_left']
      refine exists_congr fun entry => and_congr_right fun _ => ?_
      let path' := Path.join directory entry.name
      cases asked : (entryKind files options entered path' entry.type).run with
      | error fault =>
          have isFault := ne_file_of_entryKind asked path
          simp [isFault.symm]
      | ok kind =>
          simp only [Except.ok.injEq, exists_eq_left']
          cases entered.skips path' entry.name (kind == .directory) with
          | true => simp
          | false => cases kind <;> simp

theorem isDotted_of_mem_walkInside (lists : files.ListsNames) {depth : Nat} {state : WalkState}
    {directory path : Path}
    (found : Found.file path ∈ (walkInside files options depth state directory).run) :
    path.isDotted = directory.isDotted := by
  induction depth generalizing state directory with
  | zero => contradiction
  | succ depth ih =>
      obtain ⟨entries, listed, entry, member, kind, -, -, lies⟩ := file_mem_walkInside_iff.mp found
      have isName := lists.isName directory entries listed entry member
      have alike := Path.isDotted_join directory isName
      rcases lies with ⟨-, rfl⟩ | ⟨-, below⟩
      · exact alike
      · exact (ih below).trans alike

theorem isDotted_of_mem_walk (lists : files.ListsNames) {surroundings : Surroundings}
    {directory path : Path}
    (found : Found.file path ∈ (walk files surroundings options directory).run) :
    path.isDotted = directory.isDotted := by
  rw [walk, Id.run_bind] at found
  exact isDotted_of_mem_walkInside lists found

end Walk

/-- A node in which everything has a name. -/
inductive Node.WellNamed : Node → Prop
  | file {bytes : List UInt8} : WellNamed (.file bytes)
  | link {target : Path} : WellNamed (.link target)
  | unreadable : WellNamed .unreadable
  | directory {entries : List (String × Node)} :
      (∀ entry ∈ entries, IsName entry.1) → (∀ entry ∈ entries, entry.2.WellNamed) →
      WellNamed (.directory entries)

namespace Node

variable {root : Node} {trail trail' : Trail} {steps : List String}

theorem WellNamed.of_lookup {entries : List (String × Node)} {name : String} {node : Node}
    (wellNamed : WellNamed (.directory entries)) (found : entries.lookup name = some node) :
    node.WellNamed := by
  obtain ⟨before, after, split, -⟩ := List.lookup_eq_some_iff.mp found
  cases wellNamed with
  | directory _ inside =>
      exact inside (name, node) (split ▸ List.mem_append_right _ List.mem_cons_self)

/-- Following names leads from well-named nodes to well-named nodes, if it does beyond links. -/
theorem wellNamed_of_along {beyond : Trail → List String → Except FileError Trail}
    (wellNamed : root.WellNamed) (onTheWay : ∀ entry ∈ trail, entry.2.WellNamed)
    (leads : ∀ {start steps reached}, (∀ entry ∈ start, entry.2.WellNamed) →
      beyond start steps = .ok reached → ∀ entry ∈ reached, entry.2.WellNamed)
    (followed : along root beyond trail steps = .ok trail') :
    ∀ entry ∈ trail', entry.2.WellNamed := by
  induction steps generalizing trail with
  | nil => exact Except.ok.inj followed ▸ onTheWay
  | cons name rest ih =>
      unfold along at followed
      dsimp only at followed
      split at followed
      · rename_i entries isHere
        have here : (directory entries).WellNamed := by
          rw [← isHere]
          cases trail with
          | nil => exact wellNamed
          | cons entry _ => exact onTheWay entry List.mem_cons_self
        split at followed
        · exact ih onTheWay followed
        · split at followed
          · exact ih (fun entry member => onTheWay entry (List.mem_of_mem_drop member)) followed
          · split at followed
            · contradiction
            · split at followed
              · contradiction
              · rename_i target found
                refine leads ?_ followed
                split
                · exact List.forall_mem_nil _
                · exact onTheWay
              · rename_i node _ found
                exact ih (List.forall_mem_cons.mpr ⟨here.of_lookup found, onTheWay⟩) followed
      · contradiction

theorem wellNamed_of_follow (wellNamed : root.WellNamed) {links : Nat}
    (onTheWay : ∀ entry ∈ trail, entry.2.WellNamed)
    (followed : follow root links trail steps = .ok trail') :
    ∀ entry ∈ trail', entry.2.WellNamed := by
  induction links generalizing trail steps trail' with
  | zero =>
      refine wellNamed_of_along wellNamed onTheWay ?_ followed
      intro start steps reached _ failed
      contradiction
  | succ links ih => exact wellNamed_of_along wellNamed onTheWay ih followed

end Node

namespace Tree

variable {tree : Tree}

theorem wellNamed_of_trail (wellNamed : tree.root.WellNamed) {path : Path} {trail : Trail}
    (followed : tree.trail path = .ok trail) :
    ∀ entry ∈ trail, entry.2.WellNamed := by
  unfold Tree.trail at followed
  split at followed
  · contradiction
  · exact Node.wellNamed_of_follow wellNamed (List.forall_mem_nil _) followed

theorem wellNamed_of_node (wellNamed : tree.root.WellNamed) {path : Path} {node : Node}
    (found : tree.node path = .ok node) : node.WellNamed := by
  unfold Tree.node at found
  cases followed : tree.trail path with
  | error error =>
      rw [followed] at found
      contradiction
  | ok trail =>
      rw [followed] at found
      cases trail with
      | nil => exact Except.ok.inj found ▸ wellNamed
      | cons entry _ =>
          have reached := wellNamed_of_trail wellNamed followed
          exact Except.ok.inj found ▸ reached entry List.mem_cons_self

theorem listsNames (wellNamed : tree.root.WellNamed) : tree.fileSystem.ListsNames := by
  constructor
  intro path entries listed entry member
  change (tree.node path).bind entriesOf = .ok entries at listed
  cases found : tree.node path with
  | error error =>
      rw [found] at listed
      contradiction
  | ok node =>
      rw [found] at listed
      cases wellNamed_of_node wellNamed found with
      | directory named _ =>
          obtain rfl := Except.ok.inj listed
          obtain ⟨inside, isInside, rfl⟩ := List.mem_map.mp member
          exact named inside isInside
      | _ => contradiction

end Tree

end LanguageDetection.Files
