import LanguageDetection.Proofs.Command.Collecting

/-!
What is reported of texts and files: the verdict on their bytes.
-/

namespace LanguageDetection.Command

open LanguageDetection.Files
open LanguageDetection.Text

def textReport (detector : Detector) (isExplained : Bool) (bytes : List UInt8)
    (filename : Option String) : TextReport where
  verdict := detector.detectBytes bytes filename
  scores := explain detector isExplained (decodeText bytes)

def fileReport (detector : Detector) (isExplained : Bool) (path : Path) (bytes : List UInt8) :
    FileReport where
  path := path
  verdict := detector.detectBytes bytes (Path.fileName? path)
  bytes := (decodeText bytes).utf8ByteSize
  scores := explain detector isExplained (decodeText bytes)

def inputFailure (error : FileError) : Failure := ⟨"Failed to read stdin", [error.message]⟩

theorem isQuiet_readInput {m : Type → Type} [Monad m] [LawfulMonad m] (host : Host m) :
    (readInput host).IsQuiet :=
  (Stage.isQuiet_ask _).bind fun _ => Stage.isQuiet_ofExcept _

section

variable (host : Host Id) (detector : Detector) (request : DetectRequest)

theorem detectInput_result :
    (detectInput host detector request).progress.result =
      match host.input.run with
      | .error error => .error (inputFailure error)
      | .ok _ => .ok () := by
  simp only [detectInput, readInput, Stage.result_bind, Stage.progress_ask, Stage.progress_ofExcept,
    Stage.progress_log, Stage.progress_printAll]
  cases host.input.run <;> rfl

variable {host} {bytes : List UInt8}

theorem prints_detectInput (read : host.input.run = .ok bytes) :
    (detectInput host detector request).Prints (writtenText request.format
      (textReport detector request.explain bytes request.filename)) := by
  have reads : (readInput host).progress.result = .ok bytes := by
    rw [readInput, Stage.progress_bind_ask, read]
    rfl
  refine (isQuiet_readInput host).prints_bind reads ?_
  exact (Stage.isQuiet_log _).prints_bind rfl (Stage.prints_printAll _)

end

section

variable (files : FileSystem Id)

/-- The bytes of a file that can be read and is no larger than `most`. -/
structure Reads (most : UInt64) (path : Path) (bytes : List UInt8) : Prop where
  fits : ∃ status, (files.status path).run = .ok status ∧ status.size ≤ most
  content : (files.bytes path).run = .ok bytes

variable {files} {most : UInt64} {path : Path} {bytes : List UInt8}

theorem bytesWithin_eq :
    (bytesWithin files path most).run = match (files.status path).run with
      | .error error => .error ⟨"Failed to stat " ++ path, [error.message]⟩
      | .ok status =>
          if most < status.size then .ok none
          else match (files.bytes path).run with
            | .error error => .error ⟨"Failed to read " ++ path, [error.message]⟩
            | .ok bytes => .ok (some bytes) := by
  simp only [bytesWithin, Id.run_bind]
  cases (files.status path).run with
  | error error => rfl
  | ok status =>
      simp only [apply_ite Id.run, Id.run_bind, Id.run_pure]
      cases (files.bytes path).run <;> rfl

theorem bytesWithin_eq_ok_some_iff :
    (bytesWithin files path most).run = .ok (some bytes) ↔ Reads files most path bytes := by
  rw [bytesWithin_eq]
  constructor
  · intro result
    cases status : (files.status path).run with
    | error error => simp [status] at result
    | ok found =>
        rw [status] at result
        by_cases tooLarge : most < found.size
        · simp [tooLarge] at result
        · cases content : (files.bytes path).run with
          | error error => simp [tooLarge, content] at result
          | ok read =>
              simp only [tooLarge, if_false, content, Except.ok.injEq, Option.some.injEq] at result
              exact ⟨⟨found, status, UInt64.not_lt.mp tooLarge⟩, result ▸ content⟩
  · rintro ⟨⟨status, found, fits⟩, content⟩
    simp only [found, content, if_neg (UInt64.not_lt.mpr fits)]

def outcomeOf (files : FileSystem Id) (detector : Detector) (settings : Settings)
    (isExplained : Bool) (path : Path) : FileOutcome :=
  (detectFile files detector settings isExplained path).run.1

def reportOf? (files : FileSystem Id) (detector : Detector) (settings : Settings)
    (isExplained : Bool) (path : Path) : Option FileReport :=
  (outcomeOf files detector settings isExplained path).report?

variable {detector : Detector} {settings : Settings} {isExplained : Bool} {report : FileReport}

/-- The file at a path is reported on if it is read, and with the verdict on its bytes. -/
theorem reportOf?_eq_some_iff :
    reportOf? files detector settings isExplained path = some report ↔
      ∃ bytes, Reads files settings.maxFileBytes path bytes ∧
        report = fileReport detector isExplained path bytes := by
  simp only [← bytesWithin_eq_ok_some_iff, reportOf?, outcomeOf, detectFile, Id.run_bind]
  cases (bytesWithin files path settings.maxFileBytes).run with
  | error failure => simp [FileOutcome.report?]
  | ok read =>
      cases read with
      | none => simp [FileOutcome.report?]
      | some bytes =>
          simp only [Id.run_pure, detectBytes, FileOutcome.report?, Option.some.injEq,
            Except.ok.injEq, exists_eq_left', eq_comm (a := report)]
          rfl

theorem isSome_reportOf?_iff :
    (reportOf? files detector settings isExplained path).isSome = true ↔
      ∃ bytes, Reads files settings.maxFileBytes path bytes := by
  simp only [Option.isSome_iff_exists, reportOf?_eq_some_iff]
  constructor
  · rintro ⟨report, bytes, reads, -⟩
    exact ⟨bytes, reads⟩
  · rintro ⟨bytes, reads⟩
    exact ⟨fileReport detector isExplained path bytes, bytes, reads, rfl⟩

theorem map_path_reports (paths : List Path) :
    (paths.filterMap (reportOf? files detector settings isExplained)).map (·.path) =
      paths.filter fun path => (reportOf? files detector settings isExplained path).isSome := by
  induction paths with
  | nil => rfl
  | cons path rest ih =>
      cases found : reportOf? files detector settings isExplained path with
      | none => simp [found, ih]
      | some report =>
          obtain ⟨bytes, -, rfl⟩ := reportOf?_eq_some_iff.mp found
          simp [found, ih, fileReport]

theorem detectPaths_result (walker : Walker Id) (request : DetectRequest) :
    (detectPaths files walker detector settings request).progress.result =
      match request.paths.find? (!isThere files ·) with
      | none => .ok ()
      | some path => .error (missing path) := by
  simp only [detectPaths, Stage.result_bind, Stage.progress_ask, Stage.progress_log,
    Stage.progress_printAll, collectFiles_result]
  cases request.paths.find? (!isThere files ·) <;> rfl

theorem prints_detectPaths (walker : Walker Id) {request : DetectRequest}
    (there : request.paths.find? (!isThere files ·) = none) :
    (detectPaths files walker detector settings request).Prints
      (writtenFiles request.format ((collectedFrom files walker request.paths).map
        (outcomeOf files detector settings request.explain))) := by
  have collected := collectFiles_result files walker request.paths
  rw [there] at collected
  refine (isQuiet_collectFiles files walker request.paths).prints_bind collected ?_
  refine (Stage.isQuiet_log _).prints_bind rfl ?_
  refine Stage.prints_bind_ask ?_
  refine (Stage.isQuiet_log _).prints_bind rfl ?_
  refine (Stage.isQuiet_log _).prints_bind rfl ?_
  rw [List.idRun_mapM, List.map_map]
  exact Stage.prints_printAll _

end

end LanguageDetection.Command
