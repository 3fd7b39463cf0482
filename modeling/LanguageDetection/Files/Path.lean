import LanguageDetection.Text.Split

/-!
Paths: texts with slashes between names. Two paths are taken for the same if they have the same
parts; paths are ordered by their parts.
-/

namespace LanguageDetection.Files

open LanguageDetection.Text

abbrev Path := String

inductive Part
  | root
  | here
  | parent
  | name (text : String)
  deriving Repr, DecidableEq

namespace Part

def text : Part → String
  | .root => "/"
  | .here => "."
  | .parent => ".."
  | .name text => text

def rank : Part → Nat
  | .root => 0
  | .here => 1
  | .parent => 2
  | .name _ => 3

def lt (a b : Part) : Bool :=
  match a, b with
  | .name s, .name t => s < t
  | a, b => a.rank < b.rank

/-- The part that a piece between slashes stands for, if it is not left out. A dot counts at the
start of a relative path only. -/
def ofPiece? (isFirst : Bool) (piece : String) : Option Part :=
  if piece.isEmpty then none
  else if piece == "." then if isFirst then some .here else none
  else if piece == ".." then some .parent
  else some (.name piece)

end Part

namespace Path

def isAbsolute (path : Path) : Bool :=
  path.toList.head? == some '/'

def parts (path : Path) : List Part :=
  match split '/' path with
  | [] => []
  | first :: rest =>
      let start := if path.isAbsolute then [Part.root] else (Part.ofPiece? true first).toList
      start ++ rest.filterMap (Part.ofPiece? false)

def partsLt : List Part → List Part → Bool
  | _, [] => false
  | [], _ :: _ => true
  | a :: as, b :: bs => a.lt b || (a == b && partsLt as bs)

def lt (a b : Path) : Bool :=
  partsLt a.parts b.parts

def same (a b : Path) : Bool :=
  a.parts == b.parts

def fileName? (path : Path) : Option String :=
  match path.parts.getLast? with
  | some (.name text) => some text
  | _ => none

def join (directory path : Path) : Path :=
  if path.isAbsolute then path
  else if directory.isEmpty || directory.toList.getLast? == some '/' then directory ++ path
  else directory ++ "/" ++ path

def distinct : List Path → List Path
  | [] => []
  | path :: rest =>
      match distinct rest with
      | [] => [path]
      | other :: others => if same path other then path :: others else path :: other :: others

/-- The paths in order and without repeats. Of those with the same parts the first one stays. -/
def sorted (paths : List Path) : List Path :=
  distinct (paths.mergeSort fun a b => !lt b a)

end Path

end LanguageDetection.Files
