import LanguageDetection.Files.FileSystem
import LanguageDetection.Text.Utf8

/-!
File trees: file systems as values. Paths are followed through directories and links from the root,
or from a directory that relative paths start at.
-/

namespace LanguageDetection.Files

open LanguageDetection.Text

inductive Node
  | file (bytes : List UInt8)
  | directory (entries : List (String × Node))
  | link (target : Path)
  | unreadable
  deriving Repr, Inhabited

/-- The names and nodes on the way from the root, nearest first. The root itself has no name. -/
abbrev Trail := List (String × Node)

namespace Node

def stepsOf (path : Path) : List String :=
  let pieces := split '/' path
  let steps := pieces.filter fun piece => !piece.isEmpty
  if pieces.getLast? == some "" then steps ++ ["."] else steps

def longestName : Nat := 255

/-- Follows names from the end of a trail up to a link, and `beyond` the link from there. -/
def along (root : Node) (beyond : Trail → List String → Except FileError Trail) (trail : Trail) :
    List String → Except FileError Trail
  | [] => .ok trail
  | name :: rest =>
      let here := match trail with
        | [] => root
        | (_, node) :: _ => node
      match here with
      | .directory entries =>
          if name == "." then along root beyond trail rest
          else if name == ".." then along root beyond (trail.drop 1) rest
          else if longestName < name.utf8ByteSize then .error .nameTooLong
          else match entries.lookup name with
            | none => .error .notFound
            | some (.link target) =>
                let start := if target.isAbsolute then [] else trail
                beyond start (stepsOf target ++ rest)
            | some node => along root beyond ((name, node) :: trail) rest
      | _ => .error .notDirectory

/-- Follows names from the end of a trail, through at most `links` links. -/
def follow (root : Node) : Nat → Trail → List String → Except FileError Trail
  | 0 => along root fun _ _ => .error .tooManyLinks
  | links + 1 => along root (follow root links)

end Node

/-- A tree and the directory that relative paths start at. -/
structure Tree where
  root : Node
  base : Path
  deriving Repr

namespace Tree

def mostLinks : Nat := 40

def trail (tree : Tree) (path : Path) : Except FileError Trail :=
  if path.isEmpty then .error .notFound
  else
    let steps := Node.stepsOf path
    let steps := if path.isAbsolute then steps else Node.stepsOf tree.base ++ steps
    tree.root.follow mostLinks [] steps

def node (tree : Tree) (path : Path) : Except FileError Node := do
  return match ← tree.trail path with
    | [] => tree.root
    | (_, node) :: _ => node

def directorySize : UInt64 := 4096

def statusOf : Node → Status
  | .file bytes => ⟨.file, UInt64.ofNat bytes.length⟩
  | .directory _ => ⟨.directory, directorySize⟩
  | .link _ => ⟨.other, 0⟩
  | .unreadable => ⟨.file, 0⟩

def bytesOf : Node → Except FileError (List UInt8)
  | .file bytes => .ok bytes
  | .directory _ => .error .isDirectory
  | .link _ => .error .notFound
  | .unreadable => .error .inputOutput

def typeOf : Node → EntryType
  | .link _ => .link
  | node => .plain (statusOf node).kind

def entriesOf : Node → Except FileError (List Entry)
  | .directory entries => .ok (entries.map fun (name, node) => ⟨name, typeOf node⟩)
  | _ => .error .notDirectory

def pathOf (trail : Trail) : Path :=
  "/" ++ String.intercalate "/" (trail.reverse.map (·.1))

def fileSystem (tree : Tree) : FileSystem Id where
  status path := (tree.node path).map statusOf
  entries path := (tree.node path).bind entriesOf
  bytes path := (tree.node path).bind bytesOf
  canonical path := (tree.trail path).map pathOf

end Tree

end LanguageDetection.Files
