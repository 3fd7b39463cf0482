import LanguageDetection.Proofs.Command.Accounting
import LanguageDetection.Proofs.Files.Walking

/-!
The same file by several paths. It is reported once, unless some of the paths that lead to it start
with a dot and some do not: then it is reported twice.
-/

namespace LanguageDetection.Command

open LanguageDetection.Files
open LanguageDetection.Files.Path

section

variable {files : FileSystem Id} {surroundings : Surroundings} {settings : Settings}

theorem isDotted_of_mem_filesFrom (lists : files.ListsNames) {argument path : Path}
    (found : path ∈ filesFrom files (walkerOf files surroundings settings) argument) :
    path.isDotted = argument.isDotted := by
  unfold filesFrom at found
  split at found
  · rw [List.mem_singleton.mp found]
  · obtain ⟨entry, walked, isFile⟩ := List.mem_filterMap.mp found
    cases entry with
    | file other =>
        obtain rfl := Option.some.inj isFile
        exact isDotted_of_mem_walk lists walked
    | fault text => contradiction
  · contradiction

variable (files surroundings settings) in
/-- Whether one of the files that paths stand for is spelled like this, but for a dot at the start. -/
def reaches (paths : List Path) (form : PlainPath) : Bool :=
  (paths.flatMap (filesFrom files (walkerOf files surroundings settings))).any (·.plain == form)

theorem any_filter_filesFrom (lists : files.ListsNames) (p : Bool → Bool) (paths : List Path)
    (form : PlainPath) :
    ((paths.flatMap (filesFrom files (walkerOf files surroundings settings))).filter (p ·.isDotted)).any
        (·.plain == form) =
      reaches files surroundings settings (paths.filter (p ·.isDotted)) form := by
  rw [reaches, List.filter_flatMap]
  induction paths with
  | nil => rfl
  | cons path rest ih =>
      have alike : ∀ found ∈ filesFrom files (walkerOf files surroundings settings) path,
          p found.isDotted = p path.isDotted := by
        intro found member
        rw [isDotted_of_mem_filesFrom lists member]
      rw [List.flatMap_cons, List.any_append, ih, List.filter_cons]
      cases kept : p path.isDotted with
      | true =>
          have all := List.filter_eq_self.mpr fun found member => (alike found member).trans kept
          rw [all, if_pos rfl, List.flatMap_cons, List.any_append]
      | false =>
          have none := List.filter_eq_nil_iff.mpr fun found member =>
            Bool.eq_false_iff.mp ((alike found member).trans kept)
          rw [none]
          rfl

/-- What files are called, but for a dot at the start, is collected once for all paths that start
with a dot and once for all others. So it is reported or skipped once if the paths start alike. -/
theorem detectPaths_once_per_beginning (lists : files.ListsNames) (detector : Detector)
    {request : DetectRequest} (there : ∀ path ∈ request.paths, isThere files path = true) :
    ∃ account : Account files (walkerOf files surroundings settings) detector settings request,
      (collectFiles files (walkerOf files surroundings settings) request.paths).progress.result =
        .ok account.collected ∧
      (∀ format,
        let progress := (detectPaths files (walkerOf files surroundings settings) detector settings
          { request with format }).progress
        progress.result = .ok () ∧ progress.output = account.output format) ∧
      (account.collected.map fun path => (path.isDotted, path.plain)).Nodup ∧
      (∀ form, (account.collected.map plain).count form =
        (reaches files surroundings settings (request.paths.filter (·.isDotted)) form).toNat +
          (reaches files surroundings settings (request.paths.filter (!·.isDotted)) form).toNat) ∧
      ∀ dotted, (∀ path ∈ request.paths, path.isDotted = dotted) →
        (account.collected.map plain).Nodup ∧
          ((account.reports.map (·.path) ++ account.skipped).map plain).Nodup := by
  let account := accountOf files (walkerOf files surroundings settings) detector settings request
  refine ⟨account, ?_, ?_, account.enumerates.nodup_plain, ?_, ?_⟩
  · rw [collectFiles_result, find?_not_isThere there]
    rfl
  · intro format
    have prints : (detectPaths files (walkerOf files surroundings settings) detector settings
        { request with format }).Prints (account.lines format) := prints_account there format
    exact ⟨prints.succeeds, prints.output⟩
  · intro form
    rw [account.enumerates.count_plain]
    exact congrArg₂ (fun dotted undotted : Bool => dotted.toNat + undotted.toNat)
      (any_filter_filesFrom lists id request.paths form)
      (any_filter_filesFrom lists not request.paths form)
  · intro dotted alike
    have nodup : (account.collected.map plain).Nodup := by
      apply account.enumerates.nodup_plain_of_alike
      intro path member
      obtain ⟨argument, given, found⟩ := List.mem_flatMap.mp member
      rw [isDotted_of_mem_filesFrom lists found, alike argument given]
    exact ⟨nodup, (account.once.map plain).nodup_iff.mpr nodup⟩

end

def sharedSurroundings : Surroundings := ⟨"/work", []⟩

theorem wellNamed_sharedFolder : sharedFolder.root.WellNamed := by
  refine .directory (by decide) (List.forall_mem_singleton.mpr (.directory (by decide) ?_))
  intro entry member
  simp only [List.mem_cons, List.not_mem_nil, or_false] at member
  rcases member with rfl | rfl | rfl
  · exact .file
  · exact .file
  · exact .directory (by decide) (List.forall_mem_singleton.mpr .file)

/-- Paths that lead to the same files, none of them with a dot at the start. -/
theorem detectPaths_once_per_beginning_overlappingPaths :
    ∃ detector, Detector.ofSettings { maxFileBytes := 9 } = .ok detector ∧
      ∃ account : Account sharedFolder.fileSystem (walkerOf sharedFolder.fileSystem
          sharedSurroundings { maxFileBytes := 9 }) detector { maxFileBytes := 9 } overlappingRequest,
        (account.collected.map plain).Nodup ∧
          ((account.reports.map (·.path) ++ account.skipped).map plain).Nodup := by
  obtain ⟨detector, built⟩ : ∃ detector, Detector.ofSettings { maxFileBytes := 9 } = .ok detector :=
    exists_detector_of_plain (by decide)
  have there : ∀ path ∈ overlappingRequest.paths, isThere sharedFolder.fileSystem path = true := by
    decide +kernel
  obtain ⟨account, -, -, -, -, once⟩ :=
    detectPaths_once_per_beginning (Tree.listsNames wellNamed_sharedFolder) detector there
  exact ⟨detector, built, account, once false (by decide +kernel)⟩

theorem mem_walk_sharedFolder :
    Found.file "./a.go" ∈ (walkerOf sharedFolder.fileSystem sharedSurroundings {} ".").run := by
  have levels : deepest = 4095 + 1 := rfl
  rw [walkerOf, walk, Id.run_bind, levels, file_mem_walkInside_iff]
  exact ⟨[⟨"a.go", .plain .file⟩, ⟨"big.py", .plain .file⟩, ⟨"lib", .plain .directory⟩], rfl,
    ⟨"a.go", .plain .file⟩, List.mem_cons_self, .file, rfl, by decide +kernel,
    Or.inl ⟨rfl, by decide⟩⟩

/-- A file is collected twice, once in its directory and once by its own name. -/
theorem collectFiles_directory_and_file :
    ∃ collected, (collectFiles sharedFolder.fileSystem
        (walkerOf sharedFolder.fileSystem sharedSurroundings {}) [".", "a.go"]).progress.result =
          .ok collected ∧
      (collected.map plain).count ⟨false, ["a.go"]⟩ = 2 := by
  have there : ∀ path ∈ [".", "a.go"], isThere sharedFolder.fileSystem path = true := by
    decide +kernel
  have directory : (sharedFolder.fileSystem.kind? ".").run = some .directory := by
    decide +kernel
  have file : (sharedFolder.fileSystem.kind? "a.go").run = some .file := by
    decide +kernel
  have inside : "./a.go" ∈ filesFrom sharedFolder.fileSystem
      (walkerOf sharedFolder.fileSystem sharedSurroundings {}) "." := by
    rw [filesFrom, directory]
    exact List.mem_filterMap.mpr ⟨_, mem_walk_sharedFolder, rfl⟩
  have named : "a.go" ∈ filesFrom sharedFolder.fileSystem
      (walkerOf sharedFolder.fileSystem sharedSurroundings {}) "a.go" := by
    rw [filesFrom, file]
    exact List.mem_cons_self
  refine ⟨_, by rw [collectFiles_result, find?_not_isThere there], ?_⟩
  rw [collectedFrom, (enumerates_sorted _).count_plain]
  generalize collects : [".", "a.go"].flatMap (filesFrom sharedFolder.fileSystem
    (walkerOf sharedFolder.fileSystem sharedSurroundings {})) = given
  have first : "./a.go" ∈ given :=
    collects ▸ List.mem_flatMap_of_mem List.mem_cons_self inside
  have second : "a.go" ∈ given :=
    collects ▸ List.mem_flatMap_of_mem (List.mem_cons_of_mem _ List.mem_cons_self) named
  have dotted : (given.filter isDotted).any (·.plain == ⟨false, ["a.go"]⟩) = true :=
    List.any_eq_true.mpr ⟨_, List.mem_filter.mpr ⟨first, by decide +kernel⟩, by decide +kernel⟩
  have undotted : (given.filter (!·.isDotted)).any (·.plain == ⟨false, ["a.go"]⟩) = true :=
    List.any_eq_true.mpr ⟨_, List.mem_filter.mpr ⟨second, by decide +kernel⟩, by decide +kernel⟩
  rw [dotted, undotted]
  rfl

end LanguageDetection.Command
