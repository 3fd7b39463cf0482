import LanguageDetection.Command.Help
import LanguageDetection.Verdict

namespace LanguageDetection.Command

inductive UsageError
  | unknownCommand (name : String)
  | unexpectedArgument (argument : String)
  | missingValue (option : String)
  | invalidValue (value option : String)
  | invalidNumber (value option reason : String)
  | repeated (option : String)
  | unexpectedValue (value option : String)
  | missingCommand
  deriving Repr, DecidableEq

private def quote (text : String) : String := "'" ++ text ++ "'"

def UsageError.message : UsageError → String
  | .unknownCommand name => "unrecognized subcommand " ++ quote name
  | .unexpectedArgument argument => "unexpected argument " ++ quote argument ++ " found"
  | .missingValue option => "a value is required for " ++ quote option ++ " but none was supplied"
  | .invalidValue value option => "invalid value " ++ quote value ++ " for " ++ quote option
  | .invalidNumber value option reason =>
      "invalid value " ++ quote value ++ " for " ++ quote option ++ ": " ++ reason
  | .repeated option => "the argument " ++ quote option ++ " cannot be used multiple times"
  | .unexpectedValue value option =>
      "unexpected value " ++ quote value ++ " for " ++ quote option
        ++ " found; no more were expected"
  | .missingCommand => "'langsniff' requires a subcommand but one was not provided"

inductive Halt
  | usage (error : UsageError)
  | noCommand
  | notice (text : String)
  deriving Repr, DecidableEq

abbrev Parsing (α : Type) := Except Halt α

def misused (error : UsageError) : Parsing α := .error (.usage error)

inductive OutputFormat
  | text
  | json
  deriving Repr, DecidableEq

def OutputFormat.ofName? (name : String) : Option OutputFormat :=
  if name == "text" then some .text
  else if name == "json" then some .json
  else none

inductive Form
  | flag
  | text
  | path
  | profile
  | format
  | number
  /-- Asks for a text in place of everything else. -/
  | notice (text : String)
  deriving Repr, DecidableEq

def Form.takesValue : Form → Bool
  | .flag => false
  | .notice _ => false
  | _ => true

structure Switch where
  long : String
  short : Option Char := none
  form : Form := .flag
  valueName : String := ""
  deriving Repr, DecidableEq

def Switch.shown (switch : Switch) : String :=
  if switch.form.takesValue then "--" ++ switch.long ++ " <" ++ switch.valueName ++ ">"
  else "--" ++ switch.long

/-- A number of bytes, as digits with an optional plus sign, or why it is none. -/
def readBytes (text : String) : Except String UInt64 :=
  let digits := match text.toList with
    | '+' :: rest => rest
    | chars => chars
  if text.isEmpty then .error "cannot parse integer from empty string"
  else if digits.isEmpty || !digits.all Char.isDigit then .error "invalid digit found in string"
  else
    let n := digits.foldl (fun n c => n * 10 + (c.toNat - 48)) 0
    if n < UInt64.size then .ok (UInt64.ofNat n)
    else .error "number too large to fit in target type"

def Switch.check (switch : Switch) (value : String) : Parsing Unit :=
  let oneOf (isKnown : Bool) : Parsing Unit :=
    if value.isEmpty then misused (.missingValue switch.shown)
    else if isKnown then .ok ()
    else misused (.invalidValue value switch.shown)
  match switch.form with
  | .path => oneOf true
  | .profile => oneOf (Profile.ofName? value).isSome
  | .format => oneOf (OutputFormat.ofName? value).isSome
  | .number => match readBytes value with
      | .ok _ => .ok ()
      | .error reason => misused (.invalidNumber value switch.shown reason)
  | _ => .ok ()

structure Grammar where
  switches : List Switch
  takesPaths : Bool := false
  deriving Repr, DecidableEq

def commonSwitches (name help : String) : List Switch := [
  { long := "verbose", short := some 'v' },
  { long := "help", short := some 'h', form := .notice help },
  { long := "version", short := some 'V', form := .notice (name ++ " " ++ Help.version ++ "\n") }]

def programGrammar : Grammar where
  switches := commonSwitches "langsniff" Help.program

def detectGrammar : Grammar where
  switches := [
    { long := "filename", form := .text, valueName := "NAME" },
    { long := "no-extension-hint" },
    { long := "profile", form := .profile, valueName := "PROFILE" },
    { long := "format", form := .format, valueName := "FORMAT" },
    { long := "explain" },
    { long := "config", short := some 'c', form := .path, valueName := "FILE" },
    { long := "max-file-bytes", form := .number, valueName := "BYTES" },
    { long := "no-gitignore" },
    { long := "follow-symlinks" }] ++ commonSwitches "langsniff-detect" Help.detect
  takesPaths := true

def languagesGrammar : Grammar where
  switches := [
    { long := "format", form := .format, valueName := "FORMAT" },
    { long := "profile", form := .profile, valueName := "PROFILE" },
    { long := "config", short := some 'c', form := .path, valueName := "FILE" }]
      ++ commonSwitches "langsniff-languages" Help.languages

end LanguageDetection.Command
