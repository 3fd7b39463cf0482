import LanguageDetection.Command.Run

namespace LanguageDetection.Machine

open LanguageDetection.Command
open LanguageDetection.Files
open LanguageDetection.Text

def numberedText : IO.Error → Nat × String
  | .alreadyExists _ code text => (code.toNat, text)
  | .otherError code text => (code.toNat, text)
  | .resourceBusy code text => (code.toNat, text)
  | .resourceVanished code text => (code.toNat, text)
  | .unsupportedOperation code text => (code.toNat, text)
  | .hardwareFault code text => (code.toNat, text)
  | .unsatisfiedConstraints code text => (code.toNat, text)
  | .illegalOperation code text => (code.toNat, text)
  | .protocolError code text => (code.toNat, text)
  | .timeExpired code text => (code.toNat, text)
  | .interrupted _ code text => (code.toNat, text)
  | .noFileOrDirectory _ code text => (code.toNat, text)
  | .invalidArgument _ code text => (code.toNat, text)
  | .permissionDenied _ code text => (code.toNat, text)
  | .resourceExhausted _ code text => (code.toNat, text)
  | .inappropriateType _ code text => (code.toNat, text)
  | .noSuchThing _ code text => (code.toNat, text)
  | .unexpectedEof => (0, "unexpected end of file")
  | .userError text => (0, text)

def fileError (error : IO.Error) : FileError :=
  match numberedText error with
  | (2, _) => .notFound
  | (5, _) => .inputOutput
  | (20, _) => .notDirectory
  | (21, _) => .isDirectory
  | (36, _) => .nameTooLong
  | (40, _) => .tooManyLinks
  | (code, text) => .other (text ++ " (os error " ++ toString code ++ ")")

def answer {α : Type} (question : IO α) : IO (Except FileError α) := do
  return (← question.toBaseIO).mapError fileError

/-- The answer to a question about a path. Nothing has an empty path. -/
def ask {α : Type} (path : Path) (question : IO.FS.DirEntry → IO α) : IO (Except FileError α) := do
  if path.isEmpty then return .error .notFound else answer (question ⟨".", path⟩)

def kindOf : IO.FS.FileType → Kind
  | .dir => .directory
  | .file => .file
  | _ => .other

/-- The type of an entry. One that cannot be asked about is taken for a file, which then cannot be read
either. -/
def typeOf (entry : IO.FS.DirEntry) : IO EntryType := do
  match ← entry.path.symlinkMetadata.toBaseIO with
  | .ok data => return if data.type == .symlink then .link else .plain (kindOf data.type)
  | .error _ => return .plain .file

def files : FileSystem IO where
  status path := ask path fun entry => do
    let data ← entry.path.metadata
    return ⟨kindOf data.type, data.byteSize⟩
  entries path := ask path fun entry => do
    (← entry.path.readDir).toList.mapM fun entry => return ⟨entry.fileName, ← typeOf entry⟩
  bytes path := ask path fun entry => do
    return (← IO.FS.readBinFile entry.path).toList
  canonical path := ask path fun entry => do
    return (← IO.FS.realPath entry.path).toString

def textsOf (bytes : List UInt8) : List String :=
  ((bytes.splitBy fun a b => (a == 0) == (b == 0)).filter (!·.contains 0)).filterMap fun piece =>
    (Utf8.decodeStrict? piece).map String.ofList

def variableOf (text : String) : String × String :=
  let (name, value) := text.toList.span (· != '=')
  (String.ofList name, String.ofList (value.drop 1))

def environment : IO (List (String × String)) := do
  match ← files.bytes "/proc/self/environ" with
  | .ok bytes => return (textsOf bytes).map variableOf
  | .error _ => return []

def host : IO (Host IO) := do
  return {
    files
    directory := answer do return (← IO.currentDir).toString
    environment := ← environment
    input := answer do return (← (← IO.getStdin).readBinToEnd).toList }

def deliver (outcome : Outcome) : IO UInt32 := do
  let output ← IO.getStdout
  let errors ← IO.getStderr
  errors.putStr (unlines (outcome.log.map Log.Entry.render))
  output.putStr outcome.output
  output.flush
  errors.putStr outcome.report
  return outcome.exitCode.toUInt32

end LanguageDetection.Machine

def main (arguments : List String) : IO UInt32 := do
  LanguageDetection.Machine.deliver
    (← LanguageDetection.Command.run (← LanguageDetection.Machine.host) arguments)
