import LanguageDetection.Command.Run
import LanguageDetection.Proofs.Command.Detecting
import LanguageDetection.Proofs.Signature.BuiltIn

/-!
What a run leaves behind: its output is that of the command, and it is successful if the command is.
-/

namespace LanguageDetection.Command

open LanguageDetection.Files

section

variable {host : Host Id} {arguments : List String} {isVerbose : Bool} {request : Request}
  {directory : Path} {settings : Settings}

theorem run_eq (parsed : Invocation.ofArguments arguments = .ok ⟨isVerbose, request⟩) :
    (run host arguments).run =
      .ofProgress (logFilter (logText host) isVerbose) (filterReport (logText host))
        (runRequest host request).progress := by
  rw [run, parsed]
  rfl

theorem exitCode_run_eq_zero_iff
    (parsed : Invocation.ofArguments arguments = .ok ⟨isVerbose, request⟩) :
    (run host arguments).run.exitCode = 0 ↔ (runRequest host request).progress.result = .ok () := by
  rw [run_eq parsed, Outcome.ofProgress]
  cases (runRequest host request).progress.result <;> simp

theorem output_run (parsed : Invocation.ofArguments arguments = .ok ⟨isVerbose, request⟩) :
    (run host arguments).run.output = (runRequest host request).progress.output := by
  rw [run_eq parsed]
  rfl

section

variable {m : Type → Type} [Monad m] [LawfulMonad m] (host : Host m)

theorem isQuiet_currentDirectory : (currentDirectory host).IsQuiet :=
  (Stage.isQuiet_ask _).bind fun _ => Stage.isQuiet_ofExcept _

theorem isQuiet_loadSettings (directory : Path) (config : Option Path) :
    (loadSettings host directory config).IsQuiet :=
  (Stage.isQuiet_ask _).bind fun _ =>
    (Stage.isQuiet_log _).bind fun _ => Stage.isQuiet_ofExcept _

theorem isQuiet_buildRegistry (settings : Settings) :
    (buildRegistry settings : Stage m Registry).IsQuiet :=
  (Stage.isQuiet_log _).bind fun _ => Stage.isQuiet_ofExcept _

end

theorem mapError_eq_ok_iff {ε ε' α : Type} {explain : ε → ε'} {result : Except ε α} {value : α} :
    result.mapError explain = .ok value ↔ result = .ok value := by
  cases result <;> simp [Except.mapError]

def directoryFailure (error : FileError) : Failure := ⟨error.message, []⟩

@[simp] theorem result_currentDirectory :
    (currentDirectory host).progress.result = host.directory.run.mapError directoryFailure := by
  simp only [currentDirectory, Stage.progress_bind_ask, Stage.progress_ofExcept]
  rfl

@[simp] theorem result_loadSettings (config : Option Path) :
    (loadSettings host directory config).progress.result =
      ((host.source directory config).load host.files).run.1.mapError loadFailure := by
  simp only [loadSettings, Stage.progress_bind_ask, Stage.result_bind, Stage.progress_log,
    Stage.progress_ofExcept]
  rfl

@[simp] theorem result_buildRegistry :
    (buildRegistry settings : Stage Id Registry).progress.result =
      (Registry.ofSettings settings).mapError registryFailure := by
  simp only [buildRegistry, Stage.result_bind, Stage.progress_log, Stage.progress_ofExcept]
  rfl

/-- The settings that a request comes to have, in the directory that it is made in. -/
structure Configures (host : Host Id) (request : Request) (directory : Path) (settings : Settings) :
    Prop where
  isStart : host.directory.run = .ok directory
  loaded : ∃ unchanged,
    ((host.source directory request.config).load host.files).run.1 = .ok unchanged ∧
      settings = unchanged.override request.overrides

theorem Configures.progress_runRequest (configures : Configures host request directory settings) :
    ∃ entries : List Log.Entry, (runRequest host request).progress =
      (runUnder host directory settings request).progress.after (entries.map .logged) := by
  obtain ⟨isStart, unchanged, loaded, rfl⟩ := configures
  have started : (currentDirectory host).progress = { result := .ok directory } := by
    rw [currentDirectory, Stage.progress_bind_ask, isStart]
    rfl
  have loads : (loadSettings host directory request.config).progress = {
      result := .ok unchanged
      events := ((host.source directory request.config).load host.files).run.2.map .logged } := by
    rw [loadSettings, Stage.progress_bind_ask, Stage.progress_bind_of_ok rfl]
    simp only [Stage.progress_ofExcept, loaded, Stage.progress_log, Progress.after,
      List.append_nil]
    rfl
  refine ⟨((host.source directory request.config).load host.files).run.2, ?_⟩
  rw [runRequest, Stage.progress_bind_of_ok (congrArg Progress.result started), started,
    Stage.progress_bind_of_ok (congrArg Progress.result loads), loads]
  rfl

end

section

variable {host : Host Id} {arguments : List String} {isVerbose : Bool} {request : DetectRequest}
  {directory : Path} {settings : Settings} {detector : Detector} {registry : Registry}

theorem exists_detector_of_plain (plain : Registry.isCustom settings = false) :
    ∃ detector, Detector.ofSettings settings = .ok detector := by
  obtain ⟨registry, built⟩ := Registry.exists_builtIn settings.profile
  refine ⟨.withSettings registry settings, ?_⟩
  rw [Detector.ofSettings, Registry.ofSettings, plain, if_neg Bool.false_ne_true, built]
  rfl

theorem ofSettings_eq_ok_iff :
    Detector.ofSettings settings = .ok detector ↔
      ∃ registry, Registry.ofSettings settings = .ok registry ∧
        detector = Detector.withSettings registry settings := by
  rw [Detector.ofSettings]
  cases Registry.ofSettings settings with
  | error error => simp [Except.map]
  | ok registry => simp [Except.map, eq_comm]

theorem result_runUnder_detect :
    (runUnder host directory settings (.detect request)).progress.result =
      match Detector.ofSettings settings with
      | .error error => .error (registryFailure error)
      | .ok detector => (detectWith host directory settings detector request).progress.result := by
  rw [runUnder, Stage.result_bind, result_buildRegistry, Detector.ofSettings]
  cases Registry.ofSettings settings with
  | error error => rfl
  | ok registry =>
      simp only [Except.mapError, Except.bind, Except.map, Stage.result_bind,
        Stage.progress_log]

/-- A run that comes to detect, with settings that load and the detector that they describe. -/
structure Detects (host : Host Id) (arguments : List String) (request : DetectRequest)
    (directory : Path) (settings : Settings) (detector : Detector) : Prop where
  parsed : ∃ isVerbose, Invocation.ofArguments arguments = .ok ⟨isVerbose, .detect request⟩
  configures : Configures host (.detect request) directory settings
  built : Detector.ofSettings settings = .ok detector

theorem Detects.run_prints {lines : List String}
    (detects : Detects host arguments request directory settings detector)
    (prints : (detectWith host directory settings detector request).Prints lines) :
    (run host arguments).run.exitCode = 0 ∧
      (run host arguments).run.output = String.join (lines.map (· ++ "\n")) := by
  obtain ⟨⟨isVerbose, parsed⟩, configures, built⟩ := detects
  obtain ⟨registry, registryBuilt, rfl⟩ := ofSettings_eq_ok_iff.mp built
  obtain ⟨entries, progress⟩ := configures.progress_runRequest
  have builds : (buildRegistry settings : Stage Id Registry).progress.result = .ok registry := by
    rw [result_buildRegistry, registryBuilt]
    rfl
  have under : (runUnder host directory settings (.detect request)).Prints lines :=
    (isQuiet_buildRegistry settings).prints_bind builds
      ((Stage.isQuiet_log _).prints_bind rfl prints)
  rw [exitCode_run_eq_zero_iff parsed, output_run parsed, progress, Progress.result_after]
  refine ⟨under.succeeds, ?_⟩
  rw [Progress.output, Progress.printed_after, Stage.printed_log, List.nil_append]
  exact under.output

theorem Detects.exitCode_run_eq_zero_iff
    (detects : Detects host arguments request directory settings detector) :
    (run host arguments).run.exitCode = 0 ↔
      (detectWith host directory settings detector request).progress.result = .ok () := by
  obtain ⟨⟨isVerbose, parsed⟩, configures, built⟩ := detects
  obtain ⟨entries, progress⟩ := configures.progress_runRequest
  rw [Command.exitCode_run_eq_zero_iff parsed, progress, Progress.result_after,
    result_runUnder_detect, built]

theorem detectWith_of_readsInput (reads : request.readsInput = true) :
    detectWith host directory settings detector request = detectInput host detector request :=
  if_pos reads

theorem detectWith_of_paths (onPaths : request.readsInput = false)
    (succeeds : (detectWith host directory settings detector request).progress.result = .ok ()) :
    detectWith host directory settings detector request =
      detectPaths host.files (walkerOf host.files ⟨directory, host.environment⟩ settings) detector
        settings request := by
  unfold detectWith at succeeds ⊢
  rw [onPaths, if_neg Bool.false_ne_true] at succeeds ⊢
  split at succeeds
  · contradiction
  · split at succeeds
    · contradiction
    · rename_i unnamed noInput
      rw [if_neg unnamed, if_neg noInput]

end

end LanguageDetection.Command
