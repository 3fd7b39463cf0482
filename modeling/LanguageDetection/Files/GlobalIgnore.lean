import LanguageDetection.Files.IgnoreFile

/-!
The ignore file that a configuration of Git names, on a line such as `excludesFile = ~/ignored`.
Lines are looked for as they are, in whichever section.
-/

namespace LanguageDetection.Files

open LanguageDetection.Text

/-- What a walk depends on besides files: the directory that the program runs in, and its environment
variables. -/
structure Surroundings where
  directory : Path
  environment : List (String × String)
  deriving Repr

namespace GitConfiguration

def isSpace (byte : UInt8) : Bool := byte == 0x20 || (0x09 ≤ byte && byte ≤ 0x0D)

def skipSpace (bytes : List UInt8) : List UInt8 := bytes.dropWhile isSpace

def endsLine (bytes : List UInt8) : Bool :=
  let space := bytes.takeWhile isSpace
  space.contains 0x0A || space.length == bytes.length

def endsValue (bytes : List UInt8) : Bool :=
  endsLine bytes || match skipSpace bytes with
    | 0x22 :: rest => endsLine rest
    | _ => false

def value? : List UInt8 → Option (List UInt8)
  | [] => none
  | byte :: rest =>
      if isSpace byte then none
      else if endsValue rest then some [byte]
      else (value? rest).map (byte :: ·)

def dropName? : List Char → List UInt8 → Option (List UInt8)
  | [], bytes => some bytes
  | letter :: name, byte :: bytes =>
      if (Char.ofNat byte.toNat).toLower == letter then dropName? name bytes else none
  | _ :: _, [] => none

def excludesAt? (bytes : List UInt8) : Option (List UInt8) := do
  let rest ← dropName? "excludesfile".toList (skipSpace bytes)
  match skipSpace rest with
  | 0x3D :: rest => match skipSpace rest with
      | 0x22 :: quoted => (value? (skipSpace quoted)).or (value? (0x22 :: quoted))
      | plain => value? plain
  | _ => none

def findExcludes? (startsLine : Bool) : List UInt8 → Option (List UInt8)
  | [] => none
  | byte :: rest =>
      (if startsLine then excludesAt? (byte :: rest) else none).or
        (findExcludes? (byte == 0x0A) rest)

def excludesFile? (home : Option Path) (bytes : List UInt8) : Option Path := do
  let value ← findExcludes? true bytes
  let path ← Utf8.decodeStrict? value
  return match home with
    | none => String.ofList path
    | some home => (String.ofList path).replace "~" home

end GitConfiguration

namespace Surroundings

def home? (surroundings : Surroundings) : Option Path :=
  surroundings.environment.lookup "HOME"

def configurationHome? (surroundings : Surroundings) : Option Path :=
  match surroundings.environment.lookup "XDG_CONFIG_HOME" with
  | none | some "" => surroundings.home?.map (Path.join · ".config")
  | some path => some path

def gitConfigurations (surroundings : Surroundings) : List Path :=
  (surroundings.home?.map (Path.join · ".gitconfig")).toList
    ++ (surroundings.configurationHome?.map (Path.join · "git/config")).toList

end Surroundings

section

variable {m : Type → Type} [Monad m]

def readIgnoreFile (files : FileSystem m) (directory path : Path) : m IgnoreFile := do
  return match ← files.bytes path with
    | .ok bytes => .ofBytes directory bytes
    | .error _ => ⟨directory, []⟩

def excludesFile? (files : FileSystem m) (surroundings : Surroundings) : m (Option Path) := do
  let named ← surroundings.gitConfigurations.findSomeM? fun path => do
    return match ← files.bytes path with
      | .ok bytes => GitConfiguration.excludesFile? surroundings.home? bytes
      | .error _ => none
  return named.or (surroundings.configurationHome?.map (Path.join · "git/ignore"))

/-- The ignore file of all repositories. What it says is about paths from where the program runs. -/
def readGlobalIgnore (files : FileSystem m) (surroundings : Surroundings) : m IgnoreFile := do
  match ← excludesFile? files surroundings with
  | none => return ⟨surroundings.directory, []⟩
  | some path =>
      if ← files.isFile path then readIgnoreFile files surroundings.directory path
      else return ⟨surroundings.directory, []⟩

end

end LanguageDetection.Files
