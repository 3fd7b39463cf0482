import LanguageDetection.Command.Usage
import LanguageDetection.Files.Path

/-!
Reading a command line. The value of an option is checked when the next known argument begins or the
line ends, so an unknown argument right after it is noticed first.
-/

namespace LanguageDetection.Command

open LanguageDetection.Files

inductive Pending
  | nothing
  | option (switch : Switch)
  | value (switch : Switch) (text : String)
  | paths (texts : List String)
  deriving Repr, DecidableEq

structure Arguments where
  given : List (String × String) := []
  paths : List Path := []
  pending : Pending := .nothing
  /-- Whether only paths may follow. -/
  isPlain : Bool := false
  deriving Repr, DecidableEq

namespace Arguments

def has (arguments : Arguments) (long : String) : Bool :=
  arguments.given.any (·.1 == long)

def value? (arguments : Arguments) (long : String) : Option String :=
  arguments.given.lookup long

def accept (arguments : Arguments) (switch : Switch) (value : String) : Parsing Arguments := do
  if arguments.has switch.long then misused (.repeated switch.shown)
  else
    switch.check value
    return { arguments with given := arguments.given ++ [(switch.long, value)] }

def pathsShown : String := "[PATH]..."

def settle (arguments : Arguments) : Parsing Arguments :=
  let settled := { arguments with pending := .nothing }
  match arguments.pending with
  | .nothing => .ok settled
  | .option switch => misused (.missingValue switch.shown)
  | .value switch text => settled.accept switch text
  | .paths texts =>
      if texts.contains "" then misused (.missingValue pathsShown)
      else .ok { settled with paths := settled.paths ++ texts.reverse }

def raise (arguments : Arguments) (switch : Switch) : Parsing Arguments := do
  let arguments ← arguments.settle
  match switch.form with
  | .notice text => .error (.notice text)
  | _ => arguments.accept switch ""

def attach (arguments : Arguments) (switch : Switch) (value : String) : Parsing Arguments := do
  let arguments ← arguments.settle
  arguments.accept switch value

def await (arguments : Arguments) (switch : Switch) : Parsing Arguments := do
  let arguments ← arguments.settle
  return { arguments with pending := .option switch }

def takeLong (grammar : Grammar) (arguments : Arguments) (text : List Char) : Parsing Arguments :=
  let name := text.takeWhile (· != '=')
  let attached := text.drop name.length
  let long := String.ofList name
  match grammar.switches.find? (·.long == long) with
  | none => misused (.unexpectedArgument ("--" ++ long))
  | some switch =>
      match switch.form.takesValue, attached with
      | true, [] => arguments.await switch
      | true, _ :: value => arguments.attach switch (String.ofList value)
      | false, [] => arguments.raise switch
      | false, _ :: value => misused (.unexpectedValue (String.ofList value) switch.shown)

/-- Takes options by their letters, which may share one dash. -/
def takeShort (grammar : Grammar) (arguments : Arguments) : List Char → Parsing Arguments
  | [] => .ok arguments
  | letter :: rest =>
      match grammar.switches.find? (·.short == some letter) with
      | none => misused (.unexpectedArgument (String.ofList ['-', letter]))
      | some switch =>
          if switch.form.takesValue then
            match rest with
            | [] => arguments.await switch
            | '=' :: value => arguments.attach switch (String.ofList value)
            | value => arguments.attach switch (String.ofList value)
          else do
            let arguments ← arguments.raise switch
            arguments.takeShort grammar rest

def takeOption? (grammar : Grammar) (arguments : Arguments) (text : String) :
    Option (Parsing Arguments) :=
  match text.toList with
  | ['-', '-'] => some (.ok { arguments with isPlain := true })
  | '-' :: '-' :: rest => some (arguments.takeLong grammar rest)
  | ['-'] => none
  | '-' :: rest => some (arguments.takeShort grammar rest)
  | _ => none

def takePath (grammar : Grammar) (arguments : Arguments) (text : String) : Parsing Arguments :=
  if grammar.takesPaths then
    match arguments.pending with
    | .paths texts => .ok { arguments with pending := .paths (text :: texts) }
    | _ => do
        let arguments ← arguments.settle
        return { arguments with pending := .paths [text] }
  else misused (.unexpectedArgument text)

def take (grammar : Grammar) (arguments : Arguments) (text : String) : Parsing Arguments :=
  if arguments.isPlain then arguments.takePath grammar text
  else match arguments.takeOption? grammar text, arguments.pending with
    | some result, _ => result
    | none, .option switch => .ok { arguments with pending := .value switch text }
    | none, _ => arguments.takePath grammar text

def read (grammar : Grammar) (texts : List String) : Parsing Arguments := do
  let arguments ← texts.foldlM (take grammar) {}
  arguments.settle

end Arguments

structure DetectRequest where
  paths : List Path
  filename : Option String
  noExtensionHint : Bool
  profile : Option Profile
  format : OutputFormat
  explain : Bool
  config : Option Path
  maxFileBytes : Option UInt64
  noGitignore : Bool
  followSymlinks : Bool
  deriving Repr, DecidableEq

structure LanguagesRequest where
  format : OutputFormat
  profile : Option Profile
  config : Option Path
  deriving Repr, DecidableEq

inductive Request
  | detect (request : DetectRequest)
  | languages (request : LanguagesRequest)
  deriving Repr, DecidableEq

/-- A request, and whether the program should say more about its work. -/
structure Invocation where
  isVerbose : Bool
  request : Request
  deriving Repr, DecidableEq

def formatOf (arguments : Arguments) : OutputFormat :=
  ((arguments.value? "format").bind OutputFormat.ofName?).getD .text

def profileOf (arguments : Arguments) : Option Profile :=
  (arguments.value? "profile").bind Profile.ofName?

def DetectRequest.ofArguments (arguments : Arguments) : DetectRequest where
  paths := arguments.paths
  filename := arguments.value? "filename"
  noExtensionHint := arguments.has "no-extension-hint"
  profile := profileOf arguments
  format := formatOf arguments
  explain := arguments.has "explain"
  config := arguments.value? "config"
  maxFileBytes := (arguments.value? "max-file-bytes").bind fun text => (readBytes text).toOption
  noGitignore := arguments.has "no-gitignore"
  followSymlinks := arguments.has "follow-symlinks"

def LanguagesRequest.ofArguments (arguments : Arguments) : LanguagesRequest where
  format := formatOf arguments
  profile := profileOf arguments
  config := arguments.value? "config"

/-- The help that `help` and the names after it ask for. -/
def helpOn : List String → Parsing Request
  | [] => .error (.notice Help.program)
  | "detect" :: rest => noneBelow Help.detect rest
  | "languages" :: rest => noneBelow Help.languages rest
  | "help" :: rest => noneBelow Help.help rest
  | name :: _ => misused (.unknownCommand name)
where
  noneBelow (text : String) : List String → Parsing Request
    | [] => .error (.notice text)
    | name :: _ => misused (.unknownCommand name)

def commandNames : List String := ["detect", "languages", "help"]

def readCommand (arguments : Arguments) : List String → Parsing Invocation
  | [] =>
      if arguments.given.isEmpty then .error .noCommand else misused .missingCommand
  | text :: rest =>
      if arguments.isPlain then
        if commandNames.contains text then misused (.unexpectedArgument text)
        else misused (.unknownCommand text)
      else
        let isVerbose := arguments.has "verbose"
        match text with
        | "detect" => do
            let arguments ← Arguments.read detectGrammar rest
            return ⟨isVerbose || arguments.has "verbose", .detect (.ofArguments arguments)⟩
        | "languages" => do
            let arguments ← Arguments.read languagesGrammar rest
            return ⟨isVerbose || arguments.has "verbose", .languages (.ofArguments arguments)⟩
        | "help" => (helpOn rest).map (⟨isVerbose, ·⟩)
        | _ =>
            match arguments.takeOption? programGrammar text with
            | none => misused (.unknownCommand text)
            | some result => do
                let arguments ← result
                readCommand arguments rest

def Invocation.ofArguments (texts : List String) : Parsing Invocation :=
  readCommand {} texts

end LanguageDetection.Command
