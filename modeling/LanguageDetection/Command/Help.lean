namespace LanguageDetection.Command.Help

def version : String := "0.1.0"

def lines (texts : List String) : String :=
  String.join (texts.map (· ++ "\n"))

def program : String := lines [
  "Identify the programming language of a source snippet with a confidence score",
  "",
  "Usage: langsniff [OPTIONS] <COMMAND>",
  "",
  "Commands:",
  "  detect     Detect the language of stdin, files, or directories",
  "  languages  List supported language identifiers",
  "  help       Print this message or the help of the given subcommand(s)",
  "",
  "Options:",
  "  -v, --verbose  Enable verbose logging (sets log level to DEBUG)",
  "  -h, --help     Print help",
  "  -V, --version  Print version"]

def detect : String := lines [
  "Detect the language of stdin, files, or directories",
  "",
  "Usage: langsniff detect [OPTIONS] [PATH]...",
  "",
  "Arguments:",
  "  [PATH]...  Files or directories to inspect; reads stdin when omitted or `-`",
  "",
  "Options:",
  "      --filename <NAME>         Filename hint for stdin input (only its extension is used)",
  "      --no-extension-hint       Never use filename extensions; always score the content",
  "      --profile <PROFILE>       Signature table and confidence policy [possible values: standard,",
  "                                compact]",
  "  -v, --verbose                 Enable verbose logging (sets log level to DEBUG)",
  "      --format <FORMAT>         Output format: text or json [default: text] [possible values: text,",
  "                                json]",
  "      --explain                 Show per-language scores and the patterns that matched",
  "  -c, --config <FILE>           Path to config file (langsniff.toml)",
  "      --max-file-bytes <BYTES>  Skip files larger than this (bytes)",
  "      --no-gitignore            Ignore .gitignore rules when walking directories",
  "      --follow-symlinks         Follow symbolic links when walking directories",
  "  -h, --help                    Print help",
  "  -V, --version                 Print version"]

def languages : String := lines [
  "List supported language identifiers",
  "",
  "Usage: langsniff languages [OPTIONS]",
  "",
  "Options:",
  "      --format <FORMAT>    Output format: text (one per line) or json (array of strings) [default:",
  "                           text] [possible values: text, json]",
  "      --profile <PROFILE>  Signature table to list [possible values: standard, compact]",
  "  -c, --config <FILE>      Path to config file (langsniff.toml)",
  "  -v, --verbose            Enable verbose logging (sets log level to DEBUG)",
  "  -h, --help               Print help",
  "  -V, --version            Print version"]

def help : String := lines [
  "Print this message or the help of the given subcommand(s)",
  "",
  "Usage: langsniff help [COMMAND]...",
  "",
  "Arguments:",
  "  [COMMAND]...  Print help for the subcommand(s)"]

end LanguageDetection.Command.Help
