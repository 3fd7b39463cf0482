import LanguageDetection.Text.Blank
import LanguageDetection.Text.Case

namespace LanguageDetection.Extension

open LanguageDetection.Text

/-- The kept form of an extension: lower case, no white space around it, a dot in front. There is
none if nothing but a dot is given. -/
def normalize? (raw : String) : Option String :=
  let trimmed := trim raw
  if trimmed.isEmpty || trimmed == "." then none
  else
    let lowered := lower trimmed
    if lowered.startsWith "." then some lowered else some ("." ++ lowered)

def isSeparator (c : Char) : Bool := c == '/' || c == '\\'

def lastComponent (path : List Char) : List Char :=
  (path.reverse.takeWhile fun c => !isSeparator c).reverse

/-- The characters after the last dot, if there is a dot. -/
def afterLastDot? (name : List Char) : Option (List Char) :=
  let suffix := (name.reverse.takeWhile (· != '.')).reverse
  if suffix.length < name.length then some suffix else none

/-- The extension of a filename: its last component from the last dot on, in lower case. There is
none without a dot, or if the name ends in one. -/
def ofFilename? (filename : String) : Option String :=
  match afterLastDot? (lastComponent filename.toList) with
  | none => none
  | some suffix => if suffix.isEmpty then none else some (lower (String.ofList ('.' :: suffix)))

/-- Whether what follows the dot of a kept extension is more than nothing, and free of dots and
separators. -/
def isWellFormed (extension : String) : Bool :=
  let rest := extension.toList.drop 1
  !rest.isEmpty && rest.all fun c => c != '.' && !isSeparator c

end LanguageDetection.Extension
