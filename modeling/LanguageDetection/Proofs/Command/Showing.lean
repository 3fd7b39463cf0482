import LanguageDetection.Command.Detect
import LanguageDetection.Proofs.Decimal.Fixed
import LanguageDetection.Proofs.Decimal.Grouped
import LanguageDetection.Proofs.Decimal.Parts
import LanguageDetection.Proofs.Detection.Positive
import LanguageDetection.Proofs.Document.Writing

/-!
What reports look like: the values that their JSON reads as, and their text line by line.
-/

namespace LanguageDetection.Command

open LanguageDetection.Decimal

def scoreJson (score : Score) : Json :=
  .object [
    ("name", .text score.language),
    ("score", .number score.score.toNat),
    ("matched", .array (score.matched.map .text))]

def scoresJson : Option (List Score) → List (String × Json)
  | none => []
  | some scores => [("scores", .array (scores.map scoreJson))]

/-- Fields for the language of a verdict and for a number that rounds to its confidence. -/
def IsVerdictJson (verdict : Verdict) (fields : List (String × Json)) : Prop :=
  ∃ number, written? verdict.confidence = some number ∧ RoundsTo number verdict.confidence ∧
    fields = [("name", .text verdict.language), ("confidence", .number number)]

def TextReport.IsJson (report : TextReport) (json : Json) : Prop :=
  ∃ fields, IsVerdictJson report.verdict fields ∧
    json = .object (fields ++ scoresJson report.scores)

def FileReport.IsJson (report : FileReport) (json : Json) : Prop :=
  ∃ fields, IsVerdictJson report.verdict fields ∧
    json = .object
      ([("path", .text report.path), ("language", .object fields)] ++ scoresJson report.scores)

def padding (width : ℕ) (text : String) : String :=
  String.ofList (List.replicate (width - text.length) ' ')

/-- A language, its score at the end of a column, and the patterns that match. -/
def scoreText (score : Score) : String :=
  let number := toString score.score.toNat
  "  " ++ score.language ++ padding 12 score.language ++ " " ++ padding 3 number ++ number ++ "  "
    ++ String.intercalate "  " score.matched

def scoresText : Option (List Score) → List String
  | none => []
  | some [] => ["  no rules matched"]
  | some scores => scores.map scoreText

/-- The language of a verdict and, in brackets, the number of hundredths nearest to its confidence. -/
def IsVerdictText (verdict : Verdict) (text : String) : Prop :=
  ∃ value hundredths, (Parts.ofBits verdict.confidence.toBits).value? = some value ∧
    IsNearest (value * 10 ^ 2) hundredths ∧
    text = verdict.language ++ " (" ++ placed 2 hundredths ++ ")"

def TextReport.IsText (report : TextReport) (lines : List String) : Prop :=
  ∃ text, IsVerdictText report.verdict text ∧ lines = text :: scoresText report.scores

def FileReport.IsText (report : FileReport) (lines : List String) : Prop :=
  ∃ text, IsVerdictText report.verdict text ∧
    lines = (report.path ++ ": " ++ text) :: scoresText report.scores

/-- The lines at the end, if there is more than one file. -/
def IsSummary (files : ℕ) (reports : List FileReport) (skipped : ℕ) (lines : List String) : Prop :=
  if 1 < files then
    ∃ total, IsGrouped (reports.map (·.bytes)).sum total ∧
      lines = ["", "Detected " ++ toString reports.length ++ " files (" ++ total
        ++ " bytes), skipped " ++ toString skipped]
  else lines = []

theorem isVerdictJson {verdict : Verdict} (positive : IsPositive verdict.confidence) :
    IsVerdictJson verdict (Document.jsonFields (verdictFields verdict)) := by
  obtain ⟨mantissa, exponent, parts⟩ := positive
  have written : written? verdict.confidence = some (writtenValue false mantissa exponent) :=
    written?_eq_some_iff.mpr ⟨false, mantissa, exponent, ofBits_of_parts? parts, rfl⟩
  refine ⟨_, written, roundsTo_of_written? written, ?_⟩
  simp [verdictFields, Document.jsonFields, Document.json, written]

theorem isVerdictText {verdict : Verdict} (positive : IsPositive verdict.confidence) :
    IsVerdictText verdict (verdictLine verdict) := by
  obtain ⟨mantissa, exponent, parts⟩ := positive
  have finite := ofBits_of_parts? parts
  obtain ⟨hundredths, nearest, shown⟩ := fixed_eq (by decide : 0 < 2) finite
  refine ⟨mantissa * 2 ^ exponent, hundredths, ?_, nearest, ?_⟩
  · simp [finite, Parts.value?]
  · rw [verdictLine, shown]
    simp

theorem json_scoreDocument (score : Score) : (scoreDocument score).json = scoreJson score := by
  simp [scoreDocument, scoreJson, Document.json, Document.jsonFields, Document.jsonItems_map]

theorem jsonFields_scoresField (scores : Option (List Score)) :
    Document.jsonFields (scoresField scores) = scoresJson scores := by
  cases scores with
  | none => rfl
  | some scores =>
      simp [scoresField, scoresJson, Document.json, Document.jsonFields, Document.jsonItems_map,
        json_scoreDocument]

theorem scoreLine_eq (score : Score) : scoreLine score = scoreText score := by
  simp [scoreLine, scoreText, padEnd, padStart, blanks, padding, String.append_assoc]

theorem scoreLines_eq (scores : Option (List Score)) : scoreLines scores = scoresText scores := by
  match scores with
  | none => rfl
  | some [] => rfl
  | some (score :: rest) => exact List.map_congr_left fun score _ => scoreLine_eq score

namespace TextReport

variable {report : TextReport}

theorem isJson (positive : IsPositive report.verdict.confidence) :
    report.IsJson report.toDocument.json := by
  refine ⟨_, isVerdictJson positive, ?_⟩
  rw [toDocument, Document.json, Document.jsonFields_append, jsonFields_scoresField]

theorem isText (positive : IsPositive report.verdict.confidence) : report.IsText report.lines :=
  ⟨_, isVerdictText positive, congrArg (_ :: ·) (scoreLines_eq report.scores)⟩

def IsOutput (report : TextReport) : OutputFormat → String → Prop
  | .json, output => ∃ json, Json.read? output = some json ∧ report.IsJson json
  | .text, output => ∃ lines, report.IsText lines ∧ output = String.join (lines.map (· ++ "\n"))

theorem isOutput (positive : IsPositive report.verdict.confidence) (format : OutputFormat) :
    report.IsOutput format (String.join ((writtenText format report).map (· ++ "\n"))) := by
  cases format with
  | json =>
      refine ⟨_, ?_, isJson positive⟩
      simpa [writtenText] using Document.read?_write report.toDocument .compact
  | text => exact ⟨_, isText positive, rfl⟩

end TextReport

namespace FileReport

variable {report : FileReport}

theorem isJson (positive : IsPositive report.verdict.confidence) :
    report.IsJson report.toDocument.json := by
  refine ⟨_, isVerdictJson positive, ?_⟩
  rw [toDocument, Document.json, Document.jsonFields_append, jsonFields_scoresField]
  simp [Document.jsonFields, Document.json]

theorem isText (positive : IsPositive report.verdict.confidence) : report.IsText report.lines :=
  ⟨_, isVerdictText positive, congrArg (_ :: ·) (scoreLines_eq report.scores)⟩

end FileReport

theorem sum_bytes (reports : List FileReport) :
    reports.foldl (fun total report => total + report.bytes) 0 = (reports.map (·.bytes)).sum := by
  rw [List.sum_eq_foldl, List.foldl_map]

theorem isSummary (reports : List FileReport) (skipped : ℕ) :
    IsSummary (reports.length + skipped) reports skipped (summaryLines reports skipped) := by
  unfold IsSummary summaryLines
  split
  · exact ⟨_, isGrouped_grouped _, by rw [sum_bytes]⟩
  · rfl

end LanguageDetection.Command
