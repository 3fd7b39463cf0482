import LanguageDetection.Signature.Draft

namespace LanguageDetection

structure BuiltIn where
  languages : List (String × List String)
  extensions : List (String × String)
  deriving Repr, DecidableEq

namespace BuiltIn

/-- All languages that are known. The ones at the end are known by their extensions only. -/
def standard : BuiltIn where
  languages := [
    ("javascript", [
      "\\bfunction\\s+\\w+\\s*\\(",
      "\\bconst\\s+\\w+\\s*=",
      "\\blet\\s+\\w+\\s*=",
      "\\bvar\\s+\\w+\\s*=",
      "\\bconsole\\.log\\s*\\(",
      "\\bdocument\\.",
      "=>\\s*\\\x7b"]),
    ("typescript", [
      "\\binterface\\s+\\w+\\s*\\\x7b",
      "\\btype\\s+\\w+\\s*=",
      ":\\s*string\\b",
      ":\\s*number\\b",
      ":\\s*boolean\\b",
      "<\\w+>"]),
    ("python", [
      "\\bdef\\s+\\w+\\s*\\(\\s*\\w*\\s*\\):",
      "\\bimport\\s+\\w+",
      "\\bfrom\\s+\\w+\\s+import",
      "\\bclass\\s+\\w+\\s*:",
      "\\bif\\s+__name__\\s*==\\s*('|\")__main__('|\")\\s*:"]),
    ("java", [
      "\\bpublic\\s+class\\s+\\w+",
      "\\bprivate\\s+\\w+\\s+\\w+\\s*;",
      "\\bpublic\\s+static\\s+void\\s+main\\s*\\(",
      "\\bSystem\\.out\\.println\\s*\\("]),
    ("csharp", [
      "\\bnamespace\\s+\\w+",
      "\\busing\\s+\\w+\\s*;",
      "\\bpublic\\s+class\\s+\\w+",
      "\\bConsole\\.WriteLine\\s*\\("]),
    ("cpp", [
      "#include\\s*<\\w+(\\.\\w+)?>",
      "\\bstd::",
      "\\bint\\s+main\\s*\\(\\s*(?:void|int\\s+argc,\\s*char\\s*\\*\\s*argv\\[\\s*\\])\\s*\\)",
      "\\busing\\s+namespace\\s+std\\s*;"]),
    ("php", ["<\\?php", "\\becho\\s+", "\\bfunction\\s+\\w+\\s*\\(", "\\$\\w+\\s*="]),
    ("ruby", [
      "\\bdef\\s+\\w+",
      "\\bclass\\s+\\w+\\s*<",
      "\\bmodule\\s+\\w+",
      "\\bend\\b",
      "\\battr_accessor\\s+:"]),
    ("go", [
      "\\bpackage\\s+\\w+",
      "\\bimport\\s+\\(",
      "\\bfunc\\s+\\w+\\s*\\(",
      "\\btype\\s+\\w+\\s+struct\\s*\\\x7b"]),
    ("rust", [
      "\\bfn\\s+\\w+\\s*\\(",
      "\\blet\\s+mut\\s+\\w+",
      "\\buse\\s+\\w+::",
      "\\bpub\\s+struct\\s+\\w+",
      "\\bimpl\\s+\\w+\\s+for\\s+\\w+"]),
    ("swift", [
      "\\bfunc\\s+\\w+\\s*\\(",
      "\\bvar\\s+\\w+\\s*:",
      "\\blet\\s+\\w+\\s*:",
      "\\bclass\\s+\\w+\\s*:",
      "\\bimport\\s+\\w+"]),
    ("kotlin", [
      "\\bfun\\s+\\w+\\s*\\(",
      "\\bval\\s+\\w+\\s*:",
      "\\bvar\\s+\\w+\\s*:",
      "\\bclass\\s+\\w+\\s*\\(",
      "\\bimport\\s+\\w+"]),
    ("html", ["<!DOCTYPE\\s+html>", "<html>", "<head>", "<body>", "<div>"]),
    ("css", [
      "\\.\\w+\\s*\\\x7b",
      "#\\w+\\s*\\\x7b",
      "@media\\s+",
      "\\bmargin\\s*:",
      "\\bpadding\\s*:",
      "\\bcolor\\s*:"]),
    ("sql", [
      "\\bSELECT\\s+\\w+\\s+FROM\\s+\\w+",
      "\\bINSERT\\s+INTO\\s+\\w+",
      "\\bUPDATE\\s+\\w+\\s+SET\\s+",
      "\\bDELETE\\s+FROM\\s+\\w+",
      "\\bCREATE\\s+TABLE\\s+\\w+"]),
    ("shell", []),
    ("powershell", []),
    ("perl", []),
    ("r", []),
    ("matlab", []),
    ("c", [])]
  extensions := [
    (".js", "javascript"), (".jsx", "javascript"), (".ts", "typescript"), (".tsx", "typescript"),
    (".py", "python"), (".java", "java"), (".cs", "csharp"), (".cpp", "cpp"), (".c", "c"),
    (".php", "php"), (".rb", "ruby"), (".go", "go"), (".rs", "rust"), (".swift", "swift"),
    (".kt", "kotlin"), (".html", "html"), (".css", "css"), (".sql", "sql"), (".sh", "shell"),
    (".ps1", "powershell"), (".pl", "perl"), (".r", "r"), (".m", "matlab")]

def compact : BuiltIn where
  languages := [
    ("javascript", [
      "\\bfunction\\s+\\w+\\s*\\(",
      "\\bconst\\s+\\w+\\s*=",
      "\\blet\\s+\\w+\\s*=",
      "\\bconsole\\.log\\s*\\("]),
    ("typescript", ["\\binterface\\s+\\w+", "\\btype\\s+\\w+\\s*=", ":\\s*\\w+"]),
    ("python", [
      "\\bdef\\s+\\w+\\s*\\(",
      "\\bimport\\s+\\w+",
      "\\bif\\s+__name__\\s*==\\s*('|\")__main__('|\")"]),
    ("html", ["<!DOCTYPE\\s+html>", "<html>", "<body>"]),
    ("css", ["\\.\\w+\\s*\\\x7b", "#\\w+\\s*\\\x7b", "@media\\s+"]),
    ("java", ["\\bpublic\\s+class\\s+\\w+", "\\bprivate\\s+\\w+\\s+\\w+"]),
    ("csharp", ["\\bnamespace\\s+\\w+", "\\bpublic\\s+class\\s+\\w+"])]
  extensions := []

def ofProfile : Profile → BuiltIn
  | .standard => standard
  | .compact => compact

def steps (table : BuiltIn) : List Step :=
  table.languages.map (fun (id, patterns) => .language id patterns)
    ++ table.extensions.map (fun (extension, id) => .extension extension id)

def draft (table : BuiltIn) : Draft :=
  Draft.applyAll {} table.steps

end BuiltIn

namespace Registry

def standard : Except RegistryError Registry := BuiltIn.standard.draft.build

def compact : Except RegistryError Registry := BuiltIn.compact.draft.build

def builtIn : Profile → Except RegistryError Registry
  | .standard => standard
  | .compact => compact

def isCustom (settings : Settings) : Bool :=
  !settings.languages.isEmpty || !settings.extensions.isEmpty

/-- The draft that settings describe: the table of their profile and what they add to it. -/
def draftOfSettings (settings : Settings) : Draft :=
  (BuiltIn.ofProfile settings.profile).draft.addSettings settings

def ofSettings (settings : Settings) : Except RegistryError Registry :=
  if isCustom settings then (draftOfSettings settings).build else builtIn settings.profile

end Registry

end LanguageDetection
