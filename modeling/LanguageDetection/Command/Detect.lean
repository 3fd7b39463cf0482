import LanguageDetection.Command.Line
import LanguageDetection.Command.Outcome
import LanguageDetection.Command.Reports
import LanguageDetection.Files.Walk
import LanguageDetection.Settings.Basic

namespace LanguageDetection.Command

open LanguageDetection.Files
open LanguageDetection.Text

/-- What a run can ask: about files, for the directory that it is started in, and for what stands on
the standard input. -/
structure Host (m : Type → Type) where
  files : FileSystem m
  directory : m (Except FileError Path)
  environment : List (String × String)
  input : m (Except FileError (List UInt8))

section

variable {m : Type → Type} [Monad m]

private def aboutDetection (text : String) : Log.Entry := ⟨.debug, "langsniff::detect", text⟩

def groundEntry (text : String) : Ground → Log.Entry
  | .filename language =>
      aboutDetection ("language resolved from extension" ++ Log.quotedField "language" language)
  | .nothing =>
      aboutDetection ("no rule matched" ++ Log.field "bytes" (toString text.utf8ByteSize))
  | .scores language score confidence =>
      aboutDetection ("language scored" ++ Log.quotedField "language" language
        ++ Log.field "score" (toString score.toNat) ++ Log.floatField "confidence" confidence)

def decodingLog (decoded : Decoded) : List Log.Entry :=
  match decoded.damagedAs? with
  | none => []
  | some name => [⟨.debug, "langsniff::utils::encoding",
      "decoded with replacement characters" ++ Log.quotedField "encoding" name⟩]

def explain (detector : Detector) (isAsked : Bool) (text : String) : Option (List Score) :=
  if isAsked then some (detector.score text).scoring else none

def readInput (host : Host m) : Stage m (List UInt8) := do
  let bytes ← Stage.ask host.input
  Stage.ofExcept (bytes.mapError fun error => ⟨"Failed to read stdin", [error.message]⟩)

def writtenText (format : OutputFormat) (report : TextReport) : List String :=
  match format with
  | .json => [report.toDocument.write .compact]
  | .text => report.lines

def detectInput (host : Host m) (detector : Detector) (request : DetectRequest) : Stage m Unit := do
  let decoded := decode (← readInput host)
  let text := decoded.text
  let ground := detector.ground text request.filename
  Stage.log (decodingLog decoded ++ [groundEntry text ground])
  Stage.printAll (writtenText request.format
    ⟨ground.verdict, explain detector request.explain text⟩)

inductive FileOutcome
  | detected (report : FileReport)
  | tooLarge (path : Path)
  | unreadable (path : Path) (failure : Failure)
  deriving Repr

/-- The bytes of a file, unless there are more than `most`. -/
def bytesWithin (files : FileSystem m) (path : Path) (most : UInt64) :
    m (Except Failure (Option (List UInt8))) := do
  match ← files.status path with
  | .error error => return .error ⟨"Failed to stat " ++ path, [error.message]⟩
  | .ok status =>
      if most < status.size then return .ok none
      else match ← files.bytes path with
        | .error error => return .error ⟨"Failed to read " ++ path, [error.message]⟩
        | .ok bytes => return .ok (some bytes)

def detectBytes (detector : Detector) (isExplained : Bool) (path : Path) (bytes : List UInt8) :
    FileOutcome × List Log.Entry :=
  let decoded := decode bytes
  let text := decoded.text
  let ground := detector.ground text (Path.fileName? path)
  (.detected ⟨path, ground.verdict, text.utf8ByteSize, explain detector isExplained text⟩,
    decodingLog decoded ++ [groundEntry text ground])

def detectFile (files : FileSystem m) (detector : Detector) (settings : Settings)
    (isExplained : Bool) (path : Path) : m (FileOutcome × List Log.Entry) := do
  return match ← bytesWithin files path settings.maxFileBytes with
    | .error failure => (.unreadable path failure, [])
    | .ok none => (.tooLarge path, [])
    | .ok (some bytes) => detectBytes detector isExplained path bytes

private def aboutCommand (level : Log.Level) (text : String) : Log.Entry :=
  ⟨level, "langsniff::cli::detect", text⟩

def skipEntry (most : UInt64) : FileOutcome → List Log.Entry
  | .detected _ => []
  | .tooLarge path => [aboutCommand .warn ("skipping file over size limit" ++ Log.field "path" path
      ++ Log.field "max_file_bytes" (toString most.toNat))]
  | .unreadable path failure => [aboutCommand .warn
      ("skipping unreadable file: " ++ failure.inline ++ Log.field "path" path)]

def FileOutcome.report? : FileOutcome → Option FileReport
  | .detected report => some report
  | _ => none

abbrev Walker (m : Type → Type) := Path → m (List Found)

def walkFault? (path : Path) : Found → Option Log.Entry
  | .file _ => none
  | .fault text => some (aboutCommand .warn ("walk error under " ++ path ++ ": " ++ text))

def filesOf (files : FileSystem m) (walker : Walker m) (path : Path) : Stage m (List Path) := do
  if ← Stage.ask (files.isFile path) then return [path]
  else if ← Stage.ask (files.isDirectory path) then
    let found ← Stage.ask (walker path)
    Stage.log (found.filterMap (walkFault? path))
    return found.filterMap Found.file?
  else Stage.fail ("Path not found: " ++ path)

def allFiles (files : FileSystem m) (walker : Walker m) : List Path → Stage m (List Path)
  | [] => return []
  | path :: rest => do
      let first ← filesOf files walker path
      return first ++ (← allFiles files walker rest)

/-- The files that paths stand for, in order and each once. -/
def collectFiles (files : FileSystem m) (walker : Walker m) (paths : List Path) :
    Stage m (List Path) := do
  return Path.sorted (← allFiles files walker paths)

def writtenFiles (format : OutputFormat) (outcomes : List FileOutcome) : List String :=
  let reports := outcomes.filterMap FileOutcome.report?
  match format with
  | .json => [(Document.array (reports.map FileReport.toDocument)).write (.pretty 0)]
  | .text => reports.flatMap FileReport.lines
      ++ summaryLines reports (outcomes.length - reports.length)

def detectPaths (files : FileSystem m) (walker : Walker m) (detector : Detector)
    (settings : Settings) (request : DetectRequest) : Stage m Unit := do
  let paths ← collectFiles files walker request.paths
  Stage.log
    [aboutCommand .debug ("collected files" ++ Log.field "files" (toString paths.length))]
  let outcomes ← Stage.ask (paths.mapM (detectFile files detector settings request.explain))
  Stage.log (outcomes.flatMap (·.2))
  Stage.log (outcomes.flatMap fun outcome => skipEntry settings.maxFileBytes outcome.1)
  Stage.printAll (writtenFiles request.format (outcomes.map (·.1)))

def inputPath : Path := "-"

def isInput (path : Path) : Bool := Path.same path inputPath

def DetectRequest.readsInput (request : DetectRequest) : Bool :=
  match request.paths with
  | [] => true
  | [path] => isInput path
  | _ => false

def DetectRequest.overrides (request : DetectRequest) : Overrides where
  profile := request.profile
  maxFileBytes := request.maxFileBytes
  respectGitignore := if request.noGitignore then some false else none
  followSymlinks := if request.followSymlinks then some true else none
  extensionHint := if request.noExtensionHint then some false else none

def walkerOf (files : FileSystem m) (surroundings : Surroundings) (settings : Settings) : Walker m :=
  walk files surroundings ⟨settings.respectGitignore, settings.followSymlinks⟩

def readyEntry (settings : Settings) (registry : Registry) : Log.Entry :=
  aboutCommand .debug ("detector ready" ++ Log.quotedField "profile" settings.profile.name
    ++ Log.field "languages" (toString registry.languages.length))

def detectWith (host : Host m) (directory : Path) (settings : Settings) (detector : Detector)
    (request : DetectRequest) : Stage m Unit :=
  if request.readsInput then detectInput host detector request
  else if request.filename.isSome then Stage.fail "--filename only applies to stdin input"
  else if request.paths.any isInput then Stage.fail "Cannot mix stdin (-) with file paths"
  else
    let walker := walkerOf host.files ⟨directory, host.environment⟩ settings
    detectPaths host.files walker detector settings request

end

end LanguageDetection.Command
