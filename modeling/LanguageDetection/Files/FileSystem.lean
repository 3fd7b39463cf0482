import LanguageDetection.Files.Path

namespace LanguageDetection.Files

inductive FileError
  | notFound
  | inputOutput
  | notDirectory
  | isDirectory
  | nameTooLong
  | tooManyLinks
  | other (text : String)
  deriving Repr, DecidableEq

def FileError.message : FileError → String
  | .notFound => "No such file or directory (os error 2)"
  | .inputOutput => "Input/output error (os error 5)"
  | .notDirectory => "Not a directory (os error 20)"
  | .isDirectory => "Is a directory (os error 21)"
  | .nameTooLong => "File name too long (os error 36)"
  | .tooManyLinks => "Too many levels of symbolic links (os error 40)"
  | .other text => text

inductive Kind
  | file
  | directory
  | other
  deriving Repr, DecidableEq

structure Status where
  kind : Kind
  size : UInt64
  deriving Repr, DecidableEq

inductive EntryType
  | link
  | plain (kind : Kind)
  deriving Repr, DecidableEq

structure Entry where
  name : String
  type : EntryType
  deriving Repr, DecidableEq

/-- The questions about files, with answers in `m`. Links are followed, but a directory lists them as
links. -/
structure FileSystem (m : Type → Type) where
  status : Path → m (Except FileError Status)
  entries : Path → m (Except FileError (List Entry))
  bytes : Path → m (Except FileError (List UInt8))
  canonical : Path → m (Except FileError Path)

namespace FileSystem

variable {m : Type → Type} [Monad m]

def kind? (files : FileSystem m) (path : Path) : m (Option Kind) := do
  return match ← files.status path with
    | .ok status => some status.kind
    | .error _ => none

def isFile (files : FileSystem m) (path : Path) : m Bool := do
  return (← files.kind? path) == some .file

def isDirectory (files : FileSystem m) (path : Path) : m Bool := do
  return (← files.kind? path) == some .directory

def isPresent (files : FileSystem m) (path : Path) : m Bool := do
  return (← files.kind? path).isSome

end FileSystem

end LanguageDetection.Files
