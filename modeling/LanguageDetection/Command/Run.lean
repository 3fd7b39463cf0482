import LanguageDetection.Command.Detect
import LanguageDetection.Log.Filter
import LanguageDetection.Settings.Loading

namespace LanguageDetection.Command

open LanguageDetection.Files

section

variable {m : Type → Type} [Monad m]

def currentDirectory (host : Host m) : Stage m Path := do
  let directory ← Stage.ask host.directory
  Stage.ofExcept (directory.mapError fun error => ⟨error.message, []⟩)

def Host.source (host : Host m) (directory : Path) (config : Option Path) : SettingsSource where
  anchor := directory
  explicit := config
  directory := directory
  environment := host.environment

def loadFailure (error : LoadError) : Failure := ⟨error.message, error.causes⟩

def loadSettings (host : Host m) (directory : Path) (config : Option Path) : Stage m Settings := do
  let (result, entries) ← Stage.ask ((host.source directory config).load host.files)
  Stage.log entries
  Stage.ofExcept (result.mapError loadFailure)

private def aboutRegistry (text : String) : Log.Entry := ⟨.debug, "langsniff::registry", text⟩

def registryLog (settings : Settings) (registry : Except RegistryError Registry) : List Log.Entry :=
  if Registry.isCustom settings then
    let remapped := (Registry.draftOfSettings settings).remappings.map fun remapping =>
      aboutRegistry ("extension remapped" ++ Log.field "extension" remapping.extension
        ++ Log.field "from" remapping.previous ++ Log.field "to" remapping.next)
    match registry with
    | .error _ => remapped
    | .ok registry => remapped ++ [aboutRegistry ("built custom signature registry"
        ++ Log.quotedField "profile" settings.profile.name
        ++ Log.field "languages" (toString registry.languages.length)
        ++ Log.field "extensions" (toString registry.extensions.length))]
  else []

def registryFailure (error : RegistryError) : Failure :=
  ⟨"Invalid signature configuration", error.message :: error.cause?.toList⟩

def buildRegistry (settings : Settings) : Stage m Registry := do
  let registry := Registry.ofSettings settings
  Stage.log (registryLog settings registry)
  Stage.ofExcept (registry.mapError registryFailure)

def Request.config : Request → Option Path
  | .detect request => request.config
  | .languages request => request.config

def Request.overrides : Request → Overrides
  | .detect request => request.overrides
  | .languages request => { profile := request.profile }

def writtenLanguages (format : OutputFormat) (ids : List String) : List String :=
  match format with
  | .text => ids
  | .json => [(Document.array (ids.map .text)).write .compact]

def runUnder (host : Host m) (directory : Path) (settings : Settings) (request : Request) :
    Stage m Unit := do
  let registry ← buildRegistry settings
  match request with
  | .detect request => do
      Stage.log [readyEntry settings registry]
      detectWith host directory settings (Detector.withSettings registry settings) request
  | .languages request => Stage.printAll (writtenLanguages request.format registry.ids)

def runRequest (host : Host m) (request : Request) : Stage m Unit := do
  let directory ← currentDirectory host
  let settings ← loadSettings host directory request.config
  runUnder host directory (settings.override request.overrides) request

def logVariable : String := "RUST_LOG"

def logText (host : Host m) : String :=
  (host.environment.lookup logVariable).getD ""

def logFilter (text : String) (isVerbose : Bool) : Log.Filter :=
  let least : Log.Level := if isVerbose then .debug else .warn
  (Log.Filter.ofText text).add ⟨none, least.rank⟩

def filterReport (text : String) : List String :=
  (Log.Filter.invalidPieces text).map fun piece =>
    "ignoring `" ++ piece ++ "`: invalid filter directive"

def unlines (lines : List String) : String :=
  String.join (lines.map (· ++ "\n"))

/-- What has been printed stays printed, also before a failure. -/
def Outcome.ofProgress (filter : Log.Filter) (remarks : List String) (progress : Progress Unit) :
    Outcome :=
  let (exitCode, failures) : Nat × List String := match progress.result with
    | .ok () => (0, [])
    | .error failure => (1, [failure.render])
  { exitCode
    output := progress.output
    report := unlines (remarks ++ failures)
    log := progress.log.filter filter.shows }

def Outcome.ofHalt : Halt → Outcome
  | .usage error =>
      { exitCode := 2, output := "", report := "error: " ++ error.message ++ "\n", log := [] }
  | .noCommand => { exitCode := 2, output := "", report := Help.program, log := [] }
  | .notice text => { exitCode := 0, output := text, report := "", log := [] }

def run (host : Host m) (arguments : List String) : m Outcome := do
  match Invocation.ofArguments arguments with
  | .error halt => return .ofHalt halt
  | .ok invocation =>
      let text := logText host
      let progress ← (runRequest host invocation.request).run
      return .ofProgress (logFilter text invocation.isVerbose) (filterReport text) progress

end

end LanguageDetection.Command
