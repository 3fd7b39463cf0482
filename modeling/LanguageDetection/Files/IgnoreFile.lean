import LanguageDetection.Files.FileSystem
import LanguageDetection.Files.Glob
import LanguageDetection.Text.Blank
import LanguageDetection.Text.Decoding

/-!
Ignore files: lines of globs that say which paths below a directory are passed over. The last line
that matches decides.
-/

namespace LanguageDetection.Files

open LanguageDetection.Pattern
open LanguageDetection.Text

structure IgnoreRule where
  searcher : Searcher
  isException : Bool
  onlyDirectories : Bool
  deriving Repr

inductive Decision
  | undecided
  | ignored
  | kept
  deriving Repr, DecidableEq

def Decision.orElse (first second : Decision) : Decision :=
  match first with
  | .undecided => second
  | decided => decided

namespace IgnoreRule

private def endsWith (ending chars : List Char) : Bool :=
  ending.isSuffixOf chars

def trimLine (line : List Char) : List Char :=
  if endsWith ['\\', ' '] line then line else (line.reverse.dropWhile isBlank).reverse

/-- The glob of a line. One without a slash matches at any depth. -/
def globText (isAnchored : Bool) (body : List Char) : List Char :=
  let deep :=
    if isAnchored || body.contains '/' || body == ['*', '*'] then body else "**/".toList ++ body
  if endsWith "/**".toList deep then deep ++ "/*".toList else deep

def anchoredBody (body : List Char) : Bool × List Char :=
  match body with
  | '/' :: rest => (true, rest)
  | _ => (false, body)

def directoryBody (body : List Char) : Bool × List Char :=
  match body.reverse with
  | '/' :: '\\' :: before => (true, before.reverse)
  | '/' :: before => (true, before.reverse)
  | _ => (false, body)

def ofParts? (isException isAnchored : Bool) (body : List Char) : Option IgnoreRule :=
  let (onlyDirectories, body) := directoryBody body
  match Glob.ofText (String.ofList (globText isAnchored body)) with
  | .ok globs => some ⟨Glob.searcher globs, isException, onlyDirectories⟩
  | .error _ => none

/-- The rule of a line. There is none in comments, blank lines and lines that cannot be read. -/
def ofLine? (line : List Char) : Option IgnoreRule :=
  if line.head? == some '#' then none
  else match trimLine line with
    | [] => none
    | '\\' :: '!' :: rest => ofParts? false false ('!' :: rest)
    | '\\' :: '#' :: rest => ofParts? false false ('#' :: rest)
    | '!' :: rest =>
        let (isAnchored, body) := anchoredBody rest
        ofParts? true isAnchored body
    | line =>
        let (isAnchored, body) := anchoredBody line
        ofParts? false isAnchored body

end IgnoreRule

structure IgnoreFile where
  directory : Path
  rules : List IgnoreRule
  deriving Repr

namespace IgnoreFile

def lines : List UInt8 → List (List UInt8)
  | [] => []
  | 0x0A :: rest => [] :: lines rest
  | 0x0D :: 0x0A :: rest => [] :: lines rest
  | byte :: rest =>
      match lines rest with
      | [] => [[byte]]
      | line :: others => (byte :: line) :: others

/-- The lines up to the first that is not well-formed text. -/
def texts : List (List UInt8) → List (List Char)
  | [] => []
  | line :: rest =>
      match Utf8.decodeStrict? line with
      | some chars => chars :: texts rest
      | none => []

def ofBytes (directory : Path) (bytes : List UInt8) : IgnoreFile :=
  let lines := match texts (lines bytes) with
    | first :: rest => first.dropWhile (· == '\uFEFF') :: rest
    | [] => []
  ⟨directory, lines.filterMap IgnoreRule.ofLine?⟩

def dropStart? (start text : List Char) : Option (List Char) :=
  if start.isPrefixOf text then some (text.drop start.length) else none

def dropHere (path : List Char) : List Char :=
  (dropStart? ['.', '/'] path).getD path

def relative (file : IgnoreFile) (path : List Char) : List Char :=
  let path := dropHere path
  let directory := dropHere file.directory.toList
  if directory == ['.'] || !path.contains '/' then path
  else match dropStart? directory path with
    | some rest => (dropStart? ['/'] rest).getD rest
    | none => path

def decide (file : IgnoreFile) (path : List Char) (isDirectory : Bool) : Decision :=
  if file.rules.isEmpty then .undecided
  else
    let bytes := Utf8.encode (String.ofList (file.relative path))
    match file.rules.reverse.find? fun rule =>
        (!rule.onlyDirectories || isDirectory) && rule.searcher.search bytes with
    | some rule => if rule.isException then .kept else .ignored
    | none => .undecided

end IgnoreFile

end LanguageDetection.Files
