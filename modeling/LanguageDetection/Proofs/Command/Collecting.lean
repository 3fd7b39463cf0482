import LanguageDetection.Command.Detect
import LanguageDetection.Proofs.Command.Staging
import LanguageDetection.Proofs.Files.Order

/-!
Which files paths stand for, and how they are collected: all of them, in order, each once.
-/

namespace LanguageDetection.Command

open LanguageDetection.Files

section

variable (files : FileSystem Id) (walker : Walker Id)

/-- The files that a path stands for: itself, or what a walk from it finds. -/
def filesFrom (path : Path) : List Path :=
  match (files.kind? path).run with
  | some .file => [path]
  | some .directory => (walker path).run.filterMap Found.file?
  | _ => []

def isThere (path : Path) : Bool :=
  match (files.kind? path).run with
  | some .file => true
  | some .directory => true
  | _ => false

def missing (path : Path) : Failure := ⟨"Path not found: " ++ path, []⟩

theorem filesOf_result (path : Path) :
    (filesOf files walker path).progress.result =
      if isThere files path then .ok (filesFrom files walker path) else .error (missing path) := by
  obtain ⟨kind, asked⟩ : ∃ kind, (files.kind? path).run = kind := ⟨_, rfl⟩
  simp only [filesOf, filesFrom, isThere, FileSystem.isFile, FileSystem.isDirectory,
    Stage.progress_bind_ask, apply_ite Stage.progress, Id.run_bind, Id.run_pure, asked]
  rcases kind with _ | _ | _ | _ <;> rfl

theorem allFiles_result (paths : List Path) :
    (allFiles files walker paths).progress.result =
      match paths.find? (!isThere files ·) with
      | none => .ok (paths.flatMap (filesFrom files walker))
      | some path => .error (missing path) := by
  induction paths with
  | nil => rfl
  | cons path rest ih =>
      simp only [allFiles, Stage.result_bind, filesOf_result, ih, List.find?_cons]
      cases there : isThere files path with
      | false => rfl
      | true =>
          simp only [if_true, Bool.not_true, List.flatMap_cons]
          cases rest.find? (!isThere files ·) <;> rfl

def collectedFrom (paths : List Path) : List Path :=
  Path.sorted (paths.flatMap (filesFrom files walker))

theorem collectFiles_result (paths : List Path) :
    (collectFiles files walker paths).progress.result =
      match paths.find? (!isThere files ·) with
      | none => .ok (collectedFrom files walker paths)
      | some path => .error (missing path) := by
  simp only [collectFiles, Stage.result_bind, allFiles_result]
  cases paths.find? (!isThere files ·) <;> rfl

end

section

variable {m : Type → Type} [Monad m] [LawfulMonad m] (files : FileSystem m) (walker : Walker m)

theorem isQuiet_filesOf (path : Path) : (filesOf files walker path).IsQuiet := by
  refine (Stage.isQuiet_ask _).bind fun isFile => ?_
  split
  · exact Stage.isQuiet_ofProgress rfl
  · refine (Stage.isQuiet_ask _).bind fun isDirectory => ?_
    split
    · refine (Stage.isQuiet_ask _).bind fun found => ?_
      exact (Stage.isQuiet_log _).bind fun _ => Stage.isQuiet_ofProgress rfl
    · exact Stage.isQuiet_ofExcept _

theorem isQuiet_allFiles (paths : List Path) : (allFiles files walker paths).IsQuiet := by
  induction paths with
  | nil => exact Stage.isQuiet_ofProgress rfl
  | cons path rest ih =>
      refine (isQuiet_filesOf files walker path).bind fun first => ?_
      exact ih.bind fun others => Stage.isQuiet_ofProgress rfl

theorem isQuiet_collectFiles (paths : List Path) : (collectFiles files walker paths).IsQuiet :=
  (isQuiet_allFiles files walker paths).bind fun _ => Stage.isQuiet_ofProgress rfl

end

end LanguageDetection.Command
