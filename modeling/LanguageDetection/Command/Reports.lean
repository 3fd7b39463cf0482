import LanguageDetection.Decimal.Grouped
import LanguageDetection.Detection.Detector
import LanguageDetection.Files.Path

namespace LanguageDetection.Command

open LanguageDetection.Files

structure TextReport where
  verdict : Verdict
  scores : Option (List Score)
  deriving Repr

structure FileReport where
  path : Path
  verdict : Verdict
  bytes : Nat
  scores : Option (List Score)
  deriving Repr

def scoreDocument (score : Score) : Document :=
  .object [
    ("name", .text score.language),
    ("score", .unsigned score.score.toNat),
    ("matched", .array (score.matched.map .text))]

def scoresField (scores : Option (List Score)) : List (String × Document) :=
  match scores with
  | none => []
  | some scores => [("scores", .array (scores.map scoreDocument))]

def verdictFields (verdict : Verdict) : List (String × Document) :=
  [("name", .text verdict.language), ("confidence", .float verdict.confidence)]

def TextReport.toDocument (report : TextReport) : Document :=
  .object (verdictFields report.verdict ++ scoresField report.scores)

def FileReport.toDocument (report : FileReport) : Document :=
  .object ([("path", .text report.path), ("language", .object (verdictFields report.verdict))]
    ++ scoresField report.scores)

def verdictLine (verdict : Verdict) : String :=
  verdict.language ++ " (" ++ Decimal.fixed 2 verdict.confidence ++ ")"

def blanks (count : Nat) : String := String.ofList (List.replicate count ' ')

def padEnd (width : Nat) (text : String) : String :=
  text ++ blanks (width - text.length)

def padStart (width : Nat) (text : String) : String :=
  blanks (width - text.length) ++ text

def scoreLine (score : Score) : String :=
  "  " ++ padEnd 12 score.language ++ " " ++ padStart 3 (toString score.score.toNat) ++ "  "
    ++ String.intercalate "  " score.matched

def scoreLines (scores : Option (List Score)) : List String :=
  match scores with
  | none => []
  | some [] => ["  no rules matched"]
  | some scores => scores.map scoreLine

def TextReport.lines (report : TextReport) : List String :=
  verdictLine report.verdict :: scoreLines report.scores

def FileReport.lines (report : FileReport) : List String :=
  (report.path ++ ": " ++ verdictLine report.verdict) :: scoreLines report.scores

/-- The line at the end, given if there is more than one file. -/
def summaryLines (reports : List FileReport) (skipped : Nat) : List String :=
  let bytes := reports.foldl (fun total report => total + report.bytes) 0
  if 1 < reports.length + skipped then
    ["", "Detected " ++ toString reports.length ++ " files (" ++ Decimal.grouped bytes
      ++ " bytes), skipped " ++ toString skipped]
  else []

end LanguageDetection.Command
