import LanguageDetection.Files.Tree
import LanguageDetection.Proofs.Command.Running
import LanguageDetection.Proofs.Command.Showing
import Mathlib

/-!
What becomes of the files that paths stand for: each is reported on or skipped, and none gets lost.
-/

namespace LanguageDetection.Command

open LanguageDetection.Files

/-- The files of a request, and which of them are reported on. -/
structure Account (files : FileSystem Id) (walker : Walker Id) (detector : Detector)
    (settings : Settings) (request : DetectRequest) where
  collected : List Path
  reports : List FileReport
  skipped : List Path
  enumerates : Path.Enumerates collected (request.paths.flatMap (filesFrom files walker))
  ofContent : ∀ report ∈ reports, ∃ bytes, Reads files settings.maxFileBytes report.path bytes ∧
    report = fileReport detector request.explain report.path bytes
  inOrder : (reports.map (·.path)).Sublist collected
  reported : ∀ path ∈ collected,
    path ∈ reports.map (·.path) ↔ ∃ bytes, Reads files settings.maxFileBytes path bytes
  passedOver : ∀ path ∈ collected,
    path ∈ skipped ↔ ¬ ∃ bytes, Reads files settings.maxFileBytes path bytes
  once : (reports.map (·.path) ++ skipped).Perm collected

section

variable {files : FileSystem Id} {walker : Walker Id} {detector : Detector} {settings : Settings}
  {request : DetectRequest}

namespace Account

variable (account : Account files walker detector settings request)

def summary : List String :=
  if 1 < account.collected.length then
    ["", "Detected " ++ toString account.reports.length ++ " files ("
      ++ Decimal.grouped (account.reports.map (·.bytes)).sum ++ " bytes), skipped "
      ++ toString account.skipped.length]
  else []

def lines : OutputFormat → List String
  | .json => [(Document.array (account.reports.map FileReport.toDocument)).write (.pretty 0)]
  | .text => account.reports.flatMap FileReport.lines ++ account.summary

def output (format : OutputFormat) : String := unlines (account.lines format)

/-- Whether an output is about the reports of an account, each of them and in their order, and in text
about how many files there are. -/
def IsOutput : OutputFormat → String → Prop
  | .json, output => ∃ items, Json.read? output = some (.array items) ∧
      List.Forall₂ FileReport.IsJson account.reports items
  | .text, output => ∃ blocks summary, List.Forall₂ FileReport.IsText account.reports blocks ∧
      IsSummary account.collected.length account.reports account.skipped.length summary ∧
      output = String.join ((blocks.flatten ++ summary).map (· ++ "\n"))

theorem length_add_length :
    account.reports.length + account.skipped.length = account.collected.length := by
  rw [← account.once.length_eq, List.length_append, List.length_map]

end Account

def accountOf (files : FileSystem Id) (walker : Walker Id) (detector : Detector)
    (settings : Settings) (request : DetectRequest) :
    Account files walker detector settings request where
  collected := collectedFrom files walker request.paths
  reports := (collectedFrom files walker request.paths).filterMap
    (reportOf? files detector settings request.explain)
  skipped := (collectedFrom files walker request.paths).filter fun path =>
    !(reportOf? files detector settings request.explain path).isSome
  enumerates := Path.enumerates_sorted _
  ofContent := by
    intro report member
    obtain ⟨path, -, found⟩ := List.mem_filterMap.mp member
    obtain ⟨bytes, reads, rfl⟩ := reportOf?_eq_some_iff.mp found
    exact ⟨bytes, reads, rfl⟩
  inOrder := map_path_reports _ ▸ List.filter_sublist
  reported := by
    intro path member
    rw [map_path_reports, List.mem_filter, isSome_reportOf?_iff, and_iff_right member]
  passedOver := by
    intro path member
    rw [List.mem_filter, Bool.not_eq_true', ← Bool.not_eq_true, isSome_reportOf?_iff,
      and_iff_right member]
  once := map_path_reports _ ▸ List.filter_append_perm _ _

theorem find?_not_isThere {paths : List Path}
    (there : ∀ path ∈ paths, isThere files path = true) :
    paths.find? (!isThere files ·) = none := by
  rw [List.find?_eq_none]
  intro path member
  rw [there path member]
  exact Bool.false_ne_true

theorem summaryLines_eq (account : Account files walker detector settings request) :
    summaryLines account.reports account.skipped.length = account.summary := by
  rw [summaryLines, account.length_add_length, sum_bytes]
  rfl

theorem Account.isOutput_output (account : Account files walker detector settings request)
    (positive : ∀ report ∈ account.reports, IsPositive report.verdict.confidence)
    (format : OutputFormat) : account.IsOutput format (account.output format) := by
  cases format with
  | json =>
      refine ⟨account.reports.map (·.toDocument.json), ?_, ?_⟩
      · have read := Document.read?_write
          (.array (account.reports.map FileReport.toDocument)) (.pretty 0)
        rw [Document.json, Document.jsonItems_map] at read
        simpa [output, lines, unlines] using read
      · rw [List.forall₂_map_right_iff, List.forall₂_same]
        exact fun report member => FileReport.isJson (positive report member)
  | text =>
      refine ⟨account.reports.map FileReport.lines, account.summary, ?_, ?_, ?_⟩
      · rw [List.forall₂_map_right_iff, List.forall₂_same]
        exact fun report member => FileReport.isText (positive report member)
      · rw [← summaryLines_eq, ← account.length_add_length]
        exact isSummary account.reports account.skipped.length
      · rw [← List.flatMap_def]
        rfl

theorem Account.isPositive_confidence {built : Settings}
    (account : Account files walker detector settings request)
    (describes : Detector.ofSettings built = .ok detector) :
    ∀ report ∈ account.reports, IsPositive report.verdict.confidence := by
  intro report member
  obtain ⟨bytes, -, equal⟩ := account.ofContent report member
  rw [equal]
  exact Detector.isPositive_detect describes (Text.decodeText bytes) _

theorem writtenFiles_eq (format : OutputFormat) :
    writtenFiles format ((collectedFrom files walker request.paths).map
        (outcomeOf files detector settings request.explain)) =
      (accountOf files walker detector settings request).lines format := by
  let account := accountOf files walker detector settings request
  have reports : ((collectedFrom files walker request.paths).map
      (outcomeOf files detector settings request.explain)).filterMap FileOutcome.report? =
        account.reports := List.filterMap_map
  have skipped : (collectedFrom files walker request.paths).length - account.reports.length =
      account.skipped.length := by
    have total : account.reports.length + account.skipped.length =
        (collectedFrom files walker request.paths).length := account.length_add_length
    omega
  cases format with
  | json =>
      rw [writtenFiles, reports]
      rfl
  | text =>
      rw [writtenFiles, reports, List.length_map, skipped, summaryLines_eq]
      rfl

theorem prints_account (there : ∀ path ∈ request.paths, isThere files path = true)
    (format : OutputFormat) :
    (detectPaths files walker detector settings { request with format }).Prints
      ((accountOf files walker detector settings request).lines format) := by
  rw [← writtenFiles_eq]
  exact prints_detectPaths walker (find?_not_isThere there)

theorem isThere_of_detectPaths
    (succeeds : (detectPaths files walker detector settings request).progress.result = .ok ()) :
    ∀ path ∈ request.paths, isThere files path = true := by
  rw [detectPaths_result] at succeeds
  split at succeeds
  · rename_i none
    intro path member
    simpa using List.find?_eq_none.mp none path member
  · contradiction

end

section

variable {host : Host Id} {arguments : List String} {request : DetectRequest} {directory : Path}
  {settings : Settings} {detector : Detector}

theorem Detects.run_on_files
    (detects : Detects host arguments request directory settings detector)
    (onFiles : detectWith host directory settings detector request = detectPaths host.files
      (walkerOf host.files ⟨directory, host.environment⟩ settings) detector settings request)
    (there : ∀ path ∈ request.paths, isThere host.files path = true) :
    (run host arguments).run.exitCode = 0 ∧
      (accountOf host.files (walkerOf host.files ⟨directory, host.environment⟩ settings) detector
        settings request).IsOutput request.format (run host arguments).run.output := by
  let account := accountOf host.files
    (walkerOf host.files ⟨directory, host.environment⟩ settings) detector settings request
  have shown := account.isOutput_output (account.isPositive_confidence detects.built)
  have prints : (detectWith host directory settings detector request).Prints
      (account.lines request.format) := onFiles ▸ prints_account there request.format
  obtain ⟨succeeds, output⟩ := detects.run_prints prints
  exact ⟨succeeds, output ▸ shown request.format⟩

theorem Detects.exists_account
    (detects : Detects host arguments request directory settings detector)
    (onPaths : request.readsInput = false) (succeeds : (run host arguments).run.exitCode = 0) :
    ∃ account : Account host.files (walkerOf host.files ⟨directory, host.environment⟩ settings)
        detector settings request,
      account.IsOutput request.format (run host arguments).run.output := by
  have came := detects.exitCode_run_eq_zero_iff.mp succeeds
  have onFiles := detectWith_of_paths onPaths came
  have there := isThere_of_detectPaths (onFiles ▸ came)
  exact ⟨_, (detects.run_on_files onFiles there).2⟩

end

def sharedFolder : Tree where
  root := .directory [("work", .directory [
    ("a.go", .file "package".toUTF8.data.toList),
    ("big.py", .file "x = 1; x = 2".toUTF8.data.toList),
    ("lib", .directory [("b.rs", .file "fn".toUTF8.data.toList)])])]
  base := "/work"

def sharedHost : Host Id where
  files := sharedFolder.fileSystem
  directory := pure (.ok "/work")
  environment := []
  input := pure (.ok [])

def overlappingRequest : DetectRequest where
  paths := ["lib", "a.go", "big.py", "a.go", "lib/b.rs"]
  filename := none
  noExtensionHint := false
  profile := none
  format := .text
  explain := false
  config := none
  maxFileBytes := some 9
  noGitignore := false
  followSymlinks := false

end LanguageDetection.Command
