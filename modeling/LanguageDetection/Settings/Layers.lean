import LanguageDetection.Settings.Variables

/-!
Layers of settings: a configuration file below environment variables. What the upper layer gives
wins, field by field.
-/

namespace LanguageDetection

namespace Document

mutual
/-- A document laid over another. Objects are united; of anything else the upper one stays. -/
def overlay (below : Document) : Document → Document
  | .object fields => match below with
      | .object known => .object (overlayFields known fields)
      | _ => .object (overlayFields [] fields)
  | above => above

def overlayFields (known : List (String × Document)) :
    List (String × Document) → List (String × Document)
  | [] => known
  | (name, value) :: rest =>
      let value := match Dictionary.find? known name with
        | some below => overlay below value
        | none => value
      overlayFields (Dictionary.insert name value known) rest
end

def at? : List String → Document → Option Document
  | [], document => some document
  | name :: path, .object fields => (fields.lookup name).bind (at? path)
  | name :: path, .array items => (name.toNat?.bind fun place => items[place]?).bind (at? path)
  | _ :: _, _ => none

end Document

namespace Variables

def document (environment : List (String × String)) : Document :=
  environment.foldl (fun document (name, value) =>
    match pathOf? name with
    | some path => document.overlay (nest path (documentOf value))
    | none => document) (.object [])

end Variables

structure Layers where
  fileName : String
  file : Document
  environment : Document
  deriving Repr

namespace Layers

def united (layers : Layers) : Document :=
  layers.file.overlay layers.environment

def place (layers : Layers) (path : List String) : String :=
  if path.isEmpty then ""
  else if (layers.environment.at? path).isSome then
    " for key " ++ Text.quoted (String.intercalate "." (path.map fun name =>
      String.ofList (name.toList.map Char.toUpper))) ++ " in `LANGSNIFF_` environment variable(s)"
  else
    " for key " ++ Text.quoted (String.intercalate "." ("default" :: path)) ++ " in "
      ++ layers.fileName ++ " TOML file"

def message (layers : Layers) (fault : ReadFault) : String :=
  fault.cause.layerMessage ++ layers.place fault.path

def settings (layers : Layers) : Except String Settings :=
  (layers.united.readSettings .layers).mapError layers.message

end Layers

end LanguageDetection
