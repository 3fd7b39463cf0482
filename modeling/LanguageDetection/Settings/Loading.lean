import LanguageDetection.Files.FileSystem
import LanguageDetection.Log.Entry
import LanguageDetection.Settings.Layers
import LanguageDetection.Text.Decoding
import LanguageDetection.Toml.Layout

/-!
Loading settings: from the file that is asked for, or the first of two well-known ones, and from
environment variables, which win.
-/

namespace LanguageDetection

open LanguageDetection.Files
open LanguageDetection.Text

inductive LoadError
  | notFound (path : Path)
  | unusable (cause : String)
  deriving Repr, DecidableEq

def LoadError.message : LoadError → String
  | .notFound path => "Config file not found: " ++ path
  | .unusable _ => "Failed to load langsniff configuration"

def LoadError.causes : LoadError → List String
  | .notFound _ => []
  | .unusable cause => [cause]

/-- The names that a configuration file may have, in the order in which they are looked for. -/
def settingsFileNames : List String := ["langsniff.toml", ".langsniff.toml"]

structure SettingsSource where
  /-- Where well-known files are looked for. -/
  anchor : Path
  explicit : Option Path
  /-- The directory that relative paths start at. -/
  directory : Path
  environment : List (String × String)
  deriving Repr

def sharedParts : List Part → List Part → Nat
  | a :: as, b :: bs => if a == b then sharedParts as bs + 1 else 0
  | _, _ => 0

/-- A path as seen from a directory, if that is shorter. -/
def shownFrom (directory path : Path) : Path :=
  let parts := path.parts
  let base := directory.parts
  let shared := sharedParts parts base
  let seen := List.replicate (base.length - shared) Part.parent ++ parts.drop shared
  if seen.length < parts.length then String.intercalate "/" (seen.map Part.text) else path

def documentOfFile (shown : String) (content : Except FileError (List UInt8)) :
    Except String Document :=
  let place := "\n in " ++ shown ++ " TOML file"
  match content with
  | .error error => .error (error.message ++ place)
  | .ok bytes => match Utf8.decodeStrict? bytes with
    | none => .error ("stream did not contain valid UTF-8" ++ place)
    | some chars => match Toml.parse? (String.ofList chars) with
      | none => .error "TOML parse error"
      | some document => .ok document

namespace SettingsSource

variable {m : Type → Type} [Monad m]

def firstFile (files : FileSystem m) : List Path → m (Option Path)
  | [] => pure none
  | path :: rest => do
      if ← files.isFile path then return some path else firstFile files rest

def file? (source : SettingsSource) (files : FileSystem m) :
    m (Except LoadError (Option Path)) := do
  match source.explicit with
  | some path =>
      if ← files.isFile path then return .ok (some path) else return .error (.notFound path)
  | none =>
      return .ok (← firstFile files (settingsFileNames.map (Path.join source.anchor)))

def settingsOf (source : SettingsSource) (file : Option (Path × Except FileError (List UInt8))) :
    Except LoadError Settings :=
  let environment := Variables.document source.environment
  match file with
  | none => (Layers.settings ⟨"", .object [], environment⟩).mapError .unusable
  | some (path, content) =>
      let shown := shownFrom source.directory (Path.join source.directory path)
      match documentOfFile shown content with
      | .error cause => .error (.unusable cause)
      | .ok document => (Layers.settings ⟨shown, document, environment⟩).mapError .unusable

private def speak (text : String) : Log.Entry := ⟨.debug, "langsniff::config", text⟩

def load (source : SettingsSource) (files : FileSystem m) :
    m (Except LoadError Settings × List Log.Entry) := do
  match ← source.file? files with
  | .error error => return (.error error, [])
  | .ok none =>
      let entry := speak ("no config file found" ++ Log.field "anchor" source.anchor)
      return (source.settingsOf none, [entry])
  | .ok (some path) =>
      let entry := speak ("loading config file" ++ Log.field "path" path)
      let content ← files.bytes path
      return (source.settingsOf (some (path, content)), [entry])

end SettingsSource

end LanguageDetection
