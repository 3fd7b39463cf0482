import LanguageDetection.Files.GlobalIgnore

/-!
Walking through a directory: all files in it and below, but for hidden ones and those that ignore
files name. Files called `.ignore` always count; those of Git count inside a repository, unless they
are not respected.
-/

namespace LanguageDetection.Files

open LanguageDetection.Text

structure WalkOptions where
  respectGitignore : Bool
  followSymlinks : Bool
  deriving Repr, DecidableEq

structure Level where
  directory : Path
  isAbove : Bool
  ignore : IgnoreFile
  gitignore : IgnoreFile
  exclude : IgnoreFile
  hasRepository : Bool
  deriving Repr

/-- What is known on the way down: the levels from the nearest up, the directories on the way with
their canonical paths, the canonical path of where the walk starts, and the ignore file of all
repositories. -/
structure WalkState where
  levels : List Level := []
  ancestors : List (Path × Path) := []
  start : Option Path := none
  everywhere : IgnoreFile
  deriving Repr

inductive Found
  | file (path : Path)
  | fault (text : String)
  deriving Repr, DecidableEq

def Found.file? : Found → Option Path
  | .file path => some path
  | .fault _ => none

namespace WalkState

/-- The decisions of the three kinds of ignore files so far, and whether a repository has been left.
-/
private structure Tally where
  ignore : Decision := .undecided
  gitignore : Decision := .undecided
  exclude : Decision := .undecided
  isOutside : Bool := false

private def Tally.add (inRepository isDirectory : Bool) (path : List Char) (tally : Tally)
    (level : Level) : Tally :=
  let git (known : Decision) (file : IgnoreFile) : Decision :=
    if inRepository && !tally.isOutside then known.orElse (file.decide path isDirectory) else known
  { ignore := tally.ignore.orElse (level.ignore.decide path isDirectory)
    gitignore := git tally.gitignore level.gitignore
    exclude := git tally.exclude level.exclude
    isOutside := tally.isOutside || level.hasRepository }

/-- The path as seen from the directories above the start of the walk. -/
def pathFromAbove (state : WalkState) (start : Path) (path : List Char) : List Char :=
  let shown := match (state.levels.takeWhile fun level : Level => !level.isAbove).getLast? with
    | none => path
    | some top =>
        if Path.same top.directory "." then path
        else
          let start := IgnoreFile.dropHere top.directory.toList
          let rest := (IgnoreFile.dropStart? start path).getD path
          (IgnoreFile.dropStart? ['/'] rest).getD rest
  (Path.join start (String.ofList shown)).toList

def decide (state : WalkState) (path : Path) (isDirectory : Bool) : Decision :=
  let path := IgnoreFile.dropHere path.toList
  let inRepository := state.levels.any Level.hasRepository
  let tally := (state.levels.takeWhile fun level : Level => !level.isAbove).foldl
    (Tally.add inRepository isDirectory path) {}
  let tally := match state.start with
    | none => tally
    | some start => (state.levels.filter Level.isAbove).foldl
        (Tally.add inRepository isDirectory (state.pathFromAbove start path)) tally
  let everywhere := if inRepository then state.everywhere.decide path isDirectory else .undecided
  ((tally.ignore.orElse tally.gitignore).orElse tally.exclude).orElse everywhere

def skips (state : WalkState) (path : Path) (name : String) (isDirectory : Bool) : Bool :=
  match state.decide path isDirectory with
  | .ignored => true
  | .kept => false
  | .undecided => name.toList.head? == some '.'

end WalkState

section

variable {m : Type → Type} [Monad m]

def firstLine? (files : FileSystem m) (path : Path) : m (Option String) := do
  return match ← files.bytes path with
    | .error _ => none
    | .ok bytes => do
        let line ← (IgnoreFile.lines bytes).head?
        return String.ofList (← Utf8.decodeStrict? line)

/-- The directory of Git that holds what the worktrees of a repository share. In a linked worktree
`.git` is a file that leads to it. -/
def commonDirectory? (files : FileSystem m) (directory : Path) : m (Option Path) := do
  let git := Path.join directory ".git"
  if ← files.isFile git then
    let some line ← firstLine? files git | return none
    let some own := IgnoreFile.dropStart? "gitdir: ".toList line.toList | return none
    let own := String.ofList own
    let some common ← firstLine? files (Path.join own "commondir") | return none
    return if common.toList.head? == some '.' then some (Path.join own common) else some common
  else return some git

def readExclude (files : FileSystem m) (directory : Path) : m IgnoreFile := do
  match ← commonDirectory? files directory with
  | none => return ⟨directory, []⟩
  | some common => readIgnoreFile files directory (Path.join common "info/exclude")

def readLevel (files : FileSystem m) (options : WalkOptions) (isAbove : Bool) (directory : Path) :
    m Level := do
  let ignore ← readIgnoreFile files directory (Path.join directory ".ignore")
  if options.respectGitignore then
    let gitignore ← readIgnoreFile files directory (Path.join directory ".gitignore")
    let exclude ← readExclude files directory
    let hasGit ← files.isPresent (Path.join directory ".git")
    let hasOther ← files.isPresent (Path.join directory ".jj")
    return { directory, isAbove, ignore, gitignore, exclude, hasRepository := hasGit || hasOther }
  else
    let none : IgnoreFile := ⟨directory, []⟩
    return {
      directory, isAbove, ignore, gitignore := none, exclude := none, hasRepository := false }

def directoriesAbove (path : Path) : List Path :=
  let names := ((split '/' path).filter fun piece => !piece.isEmpty).dropLast
  (List.range (names.length + 1)).reverse.map fun count =>
    "/" ++ String.intercalate "/" (names.take count)

def startState (files : FileSystem m) (surroundings : Surroundings) (options : WalkOptions)
    (directory : Path) : m WalkState := do
  let everywhere ← if options.respectGitignore then readGlobalIgnore files surroundings
    else pure ⟨surroundings.directory, []⟩
  match ← files.canonical directory with
  | .error _ => return { everywhere }
  | .ok start =>
      let above := if start == "/" then [] else directoriesAbove start
      let levels ← above.mapM (readLevel files options true)
      return { levels, start := some start, everywhere }

def WalkState.enter (files : FileSystem m) (options : WalkOptions) (state : WalkState)
    (directory : Path) : m WalkState := do
  let level ← readLevel files options false directory
  let ancestors ← if options.followSymlinks then
      match ← files.canonical directory with
      | .ok canonical => pure ((directory, canonical) :: state.ancestors)
      | .error _ => pure state.ancestors
    else pure state.ancestors
  return { state with levels := level :: state.levels, ancestors }

def failedOperation (path : Path) (error : FileError) : Found :=
  .fault (path ++ ": IO error for operation on " ++ path ++ ": " ++ error.message)

def loopFound (path ancestor : Path) : Found :=
  .fault ("File system loop found: " ++ path ++ " points to an ancestor " ++ ancestor)

/-- The kind of an entry of a directory: a link counts as what it leads to only if links are
followed, and may not lead back to a directory on the way. -/
def entryKind (files : FileSystem m) (options : WalkOptions) (state : WalkState) (path : Path) :
    EntryType → m (Except Found Kind)
  | .plain kind => return .ok kind
  | .link => do
      if !options.followSymlinks then return .ok .other
      match ← files.status path with
      | .error error => return .error (failedOperation path error)
      | .ok status =>
          if status.kind == .directory then
            match ← files.canonical path with
            | .error error => return .error (failedOperation path error)
            | .ok canonical =>
                match state.ancestors.find? (·.2 == canonical) with
                | some (ancestor, _) => return .error (loopFound path ancestor)
                | none => return .ok .directory
          else return .ok status.kind

/-- What lies in a directory and below, at most `depth` levels down. -/
def walkInside (files : FileSystem m) (options : WalkOptions) (depth : Nat) (state : WalkState)
    (directory : Path) : m (List Found) :=
  match depth with
  | 0 => pure []
  | depth + 1 => do
      let state ← state.enter files options directory
      match ← files.entries directory with
      | .error error => return [failedOperation directory error]
      | .ok entries =>
          (entries.mergeSort fun a b => !decide (b.name < a.name)).flatMapM fun entry => do
            let path := Path.join directory entry.name
            match ← entryKind files options state path entry.type with
            | .error fault => return [fault]
            | .ok kind =>
                if state.skips path entry.name (kind == .directory) then return []
                else match kind with
                  | .file => return [.file path]
                  | .directory => walkInside files options depth state path
                  | .other => return []

/-- Paths are too short for more levels than these. -/
def deepest : Nat := 4096

def walk (files : FileSystem m) (surroundings : Surroundings) (options : WalkOptions)
    (directory : Path) : m (List Found) := do
  let state ← startState files surroundings options directory
  walkInside files options deepest state directory

end

end LanguageDetection.Files
