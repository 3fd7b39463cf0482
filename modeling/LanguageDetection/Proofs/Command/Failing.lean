import LanguageDetection.Proofs.Command.Asking
import LanguageDetection.Proofs.Command.Reporting

/-!
Runs that fail: what they fail of, decided in a fixed order, and that nothing is printed before. A
run whose settings are refused has asked for nothing but those.
-/

namespace LanguageDetection.Command

open LanguageDetection.Files

section

variable (host : Host Id)

namespace DetectRequest

def inputFailure? : Option Failure := (failure? host.input.run).map inputFailure

def strayFilename? (request : DetectRequest) : Option Failure :=
  if request.filename.isSome then some ⟨"--filename only applies to stdin input", []⟩ else none

def mixedInput? (request : DetectRequest) : Option Failure :=
  if request.paths.any isInput then some ⟨"Cannot mix stdin (-) with file paths", []⟩ else none

def absentPath? (request : DetectRequest) : Option Failure :=
  (request.paths.find? (!isThere host.files ·)).map missing

def inputChecks (request : DetectRequest) : List (Option Failure) :=
  if request.readsInput then [inputFailure? host]
  else [request.strayFilename?, request.mixedInput?, request.absentPath? host]

end DetectRequest

namespace Request

def directoryFailure? : Option Failure := (failure? host.directory.run).map directoryFailure

/-- What comes of loading the settings, in the directory that a request is made in. -/
def loaded? (request : Request) : Option (Except LoadError Settings) :=
  host.directory.run.toOption.map fun directory =>
    ((host.source directory request.config).load host.files).run.1

def settingsFailure? (request : Request) : Option Failure :=
  (request.loaded? host).bind fun loaded => (failure? loaded).map loadFailure

/-- What is wrong with the signatures that the settings describe, if those load. -/
def signatureFailure? (request : Request) : Option Failure := do
  let settings ← (← request.loaded? host).toOption
  (failure? (Registry.ofSettings (settings.override request.overrides))).map registryFailure

def inputChecks : Request → List (Option Failure)
  | .detect request => request.inputChecks host
  | .languages _ => []

/-- What is decided before a request looks at any input. -/
def settingsChecks (request : Request) : List (Option Failure) :=
  [directoryFailure? host, request.settingsFailure? host, request.signatureFailure? host]

/-- All that a request may fail of, in the order in which it is decided. -/
def checks (request : Request) : List (Option Failure) :=
  request.settingsChecks host ++ request.inputChecks host

def firstFailure? (request : Request) : Option Failure :=
  (request.checks host).findSome? id

end Request

end

section

variable {host : Host Id} {directory : Path} {settings : Settings}

theorem failure?_detectWith (detector : Detector) (request : DetectRequest) :
    failure? (detectWith host directory settings detector request).progress.result =
      (request.inputChecks host).findSome? id := by
  unfold detectWith DetectRequest.inputChecks
  cases request.readsInput with
  | true =>
      simp only [if_true, detectInput_result, DetectRequest.inputFailure?]
      cases host.input.run <;> rfl
  | false =>
      simp only [Bool.false_eq_true, if_false, DetectRequest.strayFilename?,
        DetectRequest.mixedInput?, DetectRequest.absentPath?]
      split
      · rfl
      · split
        · rfl
        · simp only [detectPaths_result]
          cases request.paths.find? (!isThere host.files ·) <;> rfl

theorem failure?_runUnder (request : Request) :
    failure? (runUnder host directory settings request).progress.result =
      ((failure? (Registry.ofSettings settings)).map registryFailure
        :: request.inputChecks host).findSome? id := by
  rw [runUnder, Stage.result_bind, result_buildRegistry]
  cases Registry.ofSettings settings with
  | error error => rfl
  | ok registry =>
      cases request with
      | detect request =>
          simp only [Except.mapError, Except.bind, Stage.result_bind, Stage.progress_log]
          exact failure?_detectWith _ request
      | languages request =>
          simp only [Except.mapError, Except.bind, Stage.progress_printAll]
          rfl

theorem failure?_runRequest (request : Request) :
    failure? (runRequest host request).progress.result = request.firstFailure? host := by
  rw [runRequest, Stage.result_bind, result_currentDirectory, Request.firstFailure?, Request.checks,
    Request.settingsChecks, Request.directoryFailure?, Request.settingsFailure?,
    Request.signatureFailure?, Request.loaded?]
  cases host.directory.run with
  | error error => rfl
  | ok directory =>
      simp only [Except.mapError, Except.bind, Stage.result_bind, result_loadSettings,
        Except.toOption, Option.map_some, Option.bind_some]
      cases ((host.source directory request.config).load host.files).run.1 with
      | error error => rfl
      | ok settings => exact failure?_runUnder request

end

/-- A failure is all that a run reports, after what it remarks on the log filter, and nothing is put
out. -/
structure Fails (host : Host Id) (arguments : List String) (failure : Failure) : Prop where
  exitCode : (run host arguments).run.exitCode = 1
  output : (run host arguments).run.output = ""
  report : (run host arguments).run.report =
    unlines (filterReport (logText host) ++ [failure.render])

section

variable {m : Type → Type} [Monad m] [LawfulMonad m] (host : Host m)

theorem isAtomic_detectInput (detector : Detector) (request : DetectRequest) :
    (detectInput host detector request).IsAtomic := by
  refine (isQuiet_readInput host).bind_isAtomic fun bytes => ?_
  refine (Stage.isQuiet_log _).bind_isAtomic fun _ => ?_
  exact (Stage.isSure_printAll _).isAtomic

theorem isAtomic_detectPaths (walker : Walker m) (detector : Detector) (settings : Settings)
    (request : DetectRequest) :
    (detectPaths host.files walker detector settings request).IsAtomic := by
  refine (isQuiet_collectFiles host.files walker request.paths).bind_isAtomic fun paths => ?_
  refine (Stage.isQuiet_log _).bind_isAtomic fun _ => ?_
  refine (Stage.isQuiet_ask _).bind_isAtomic fun outcomes => ?_
  refine (Stage.isQuiet_log _).bind_isAtomic fun _ => ?_
  refine (Stage.isQuiet_log _).bind_isAtomic fun _ => ?_
  exact (Stage.isSure_printAll _).isAtomic

theorem isAtomic_detectWith (directory : Path) (settings : Settings) (detector : Detector)
    (request : DetectRequest) :
    (detectWith host directory settings detector request).IsAtomic := by
  have fails (message : String) : (Stage.fail message : Stage m Unit).IsAtomic :=
    (Stage.isQuiet_ofExcept _).isAtomic
  unfold detectWith
  split_ifs with readsInput named mixed
  · exact isAtomic_detectInput host detector request
  · exact fails _
  · exact fails _
  · exact isAtomic_detectPaths host _ detector settings request

theorem isAtomic_runRequest (request : Request) : (runRequest host request).IsAtomic := by
  refine (isQuiet_currentDirectory host).bind_isAtomic fun directory => ?_
  refine (isQuiet_loadSettings host directory request.config).bind_isAtomic fun settings => ?_
  refine (isQuiet_buildRegistry _).bind_isAtomic fun registry => ?_
  cases request with
  | detect request =>
      exact (Stage.isQuiet_log _).bind_isAtomic fun _ => isAtomic_detectWith host _ _ _ request
  | languages request => exact (Stage.isSure_printAll _).isAtomic

end

theorem output_ofProgress (filter : Log.Filter) (remarks : List String) {progress : Progress Unit}
    (atomic : ∀ failure, progress.result = .error failure → progress.printed = [])
    (failed : (Outcome.ofProgress filter remarks progress).exitCode ≠ 0) :
    (Outcome.ofProgress filter remarks progress).output = "" := by
  cases result : progress.result with
  | ok _ => simp [Outcome.ofProgress, result] at failed
  | error failure =>
      change progress.output = ""
      rw [Progress.output, atomic failure result]
      rfl

theorem output_ofHalt (halt : Halt) (failed : (Outcome.ofHalt halt).exitCode ≠ 0) :
    (Outcome.ofHalt halt).output = "" := by
  cases halt with
  | usage error => rfl
  | noCommand => rfl
  | notice text => contradiction

/-- Whatever a host answers on the way, a run of it that fails has printed nothing. -/
theorem satisfiesM_run {m : Type → Type} [Monad m] [LawfulMonad m] (host : Host m)
    (arguments : List String) :
    SatisfiesM (fun outcome => outcome.exitCode ≠ 0 → outcome.output = "") (run host arguments) := by
  unfold run
  cases Invocation.ofArguments arguments with
  | error halt => exact SatisfiesM.pure (output_ofHalt halt)
  | ok invocation =>
      apply SatisfiesM.bind (isAtomic_runRequest host invocation.request)
      intro progress atomic
      exact SatisfiesM.pure (output_ofProgress _ _ atomic)

section

variable {host : Host Id} {arguments : List String} {isVerbose : Bool} {request : Request}

theorem fails_of_firstFailure? {failure : Failure}
    (parsed : Invocation.ofArguments arguments = .ok ⟨isVerbose, request⟩)
    (first : request.firstFailure? host = some failure) : Fails host arguments failure := by
  rw [← failure?_runRequest, failure?_eq_some_iff] at first
  have atomic := Stage.IsAtomic.printed_eq_nil (isAtomic_runRequest host request) first
  constructor <;> rw [run_eq parsed]
  · simp [Outcome.ofProgress, first]
  · change (runRequest host request).progress.output = ""
    rw [Progress.output, atomic]
    rfl
  · simp [Outcome.ofProgress, first]

theorem exitCode_eq_zero_iff
    (parsed : Invocation.ofArguments arguments = .ok ⟨isVerbose, request⟩) :
    (run host arguments).run.exitCode = 0 ↔ request.firstFailure? host = none := by
  rw [exitCode_run_eq_zero_iff parsed, ← failure?_runRequest]
  cases (runRequest host request).progress.result <;> simp [failure?]

/-- Whether a request fails before it looks at any input: there is no directory to start in, or its
settings do not load, or they describe signatures that cannot be used. -/
def Request.isRefused (host : Host Id) (request : Request) : Prop :=
  ∃ check ∈ request.settingsChecks host, check.isSome = true

theorem not_isRefused {directory : Path} {settings : Settings} {registry : Registry}
    (isStart : host.directory.run = .ok directory)
    (loaded : ((host.source directory request.config).load host.files).run.1 = .ok settings)
    (built : Registry.ofSettings (settings.override request.overrides) = .ok registry) :
    ¬ request.isRefused host := by
  simp [Request.isRefused, Request.settingsChecks, Request.directoryFailure?,
    Request.settingsFailure?, Request.signatureFailure?, Request.loaded?, isStart, loaded, built,
    failure?, Except.toOption]

theorem mirrors_runUnder {directory : Path} {settings : Settings} {error : RegistryError}
    (rejected : Registry.ofSettings settings = .error error) :
    Mirrors (request.mayAsk host) (runUnder host.watched directory settings request)
      (runUnder host directory settings request) := by
  have built : Mirrors (request.mayAsk host) (buildRegistry settings : Stage Watched Registry)
      (buildRegistry settings : Stage Id Registry) :=
    Mirrors.bind (Mirrors.ofProgress _) fun _ _ => Mirrors.ofProgress _
  refine Mirrors.bind built fun registry yields => ?_
  rw [result_buildRegistry, rejected] at yields
  contradiction

theorem mirrors_runRequest (refused : request.isRefused host) :
    Mirrors (request.mayAsk host) (runRequest host.watched request) (runRequest host request) := by
  refine Mirrors.bind mirrors_currentDirectory fun directory starts => ?_
  rw [result_currentDirectory, mapError_eq_ok_iff] at starts
  refine Mirrors.bind (mirrors_loadSettings starts) fun settings loads => ?_
  rw [result_loadSettings, mapError_eq_ok_iff] at loads
  cases built : Registry.ofSettings (settings.override request.overrides) with
  | error error => exact mirrors_runUnder built
  | ok registry => exact absurd refused (not_isRefused starts loads built)

/-- A run that is watched ends as it would otherwise, and has asked for its settings at most. -/
theorem watchedRun_of_refused
    (parsed : Invocation.ofArguments arguments = .ok ⟨isVerbose, request⟩)
    (refused : request.isRefused host) :
    (watchedRun host arguments).1 = (run host arguments).run ∧
      ∀ question ∈ (watchedRun host arguments).2, request.mayAsk host question := by
  have asks : Asks (request.mayAsk host) (run host.watched arguments) (run host arguments).run := by
    simp only [run, parsed]
    exact Asks.bind (mirrors_runRequest refused) (Asks.pure _)
  obtain ⟨asked, ran, allowed⟩ := asks []
  rw [watchedRun, ran]
  exact ⟨rfl, allowed⟩

theorem firstFailure?_of_absent {request : DetectRequest} (onPaths : request.readsInput = false)
    {path : Path} (given : path ∈ request.paths) (absent : isThere host.files path = false) :
    ((Request.detect request).firstFailure? host).isSome = true := by
  have found : (request.absentPath? host).isSome = true := by
    rw [DetectRequest.absentPath?, Option.isSome_map, List.find?_isSome]
    exact ⟨path, given, by rw [absent]; rfl⟩
  have checked : request.absentPath? host ∈ (Request.detect request).checks host := by
    simp [Request.checks, Request.inputChecks, DetectRequest.inputChecks, onPaths]
  rw [Request.firstFailure?, List.findSome?_isSome_iff]
  exact ⟨_, checked, found⟩

end

/-- Runs that fail put nothing out. A request fails of the first of its checks that fails, and only
of that; one path that is not there is enough; and a request whose settings are refused has asked
for nothing but its settings by then. -/
theorem run_failing :
    (∀ (m : Type → Type) [Monad m] [LawfulMonad m] (host : Host m) (arguments : List String),
      SatisfiesM (fun outcome => outcome.exitCode ≠ 0 → outcome.output = "")
        (run host arguments)) ∧
    ∀ (host : Host Id) (arguments : List String) (isVerbose : Bool) (request : Request),
      Invocation.ofArguments arguments = .ok ⟨isVerbose, request⟩ →
      ((run host arguments).run.exitCode = 0 ↔ ∀ check ∈ request.checks host, check = none) ∧
      (∀ before failure after, request.checks host = before ++ some failure :: after →
        (∀ check ∈ before, check = none) → Fails host arguments failure) ∧
      (∀ detect, request = .detect detect → detect.readsInput = false →
        ∀ path ∈ detect.paths, isThere host.files path = false →
          ∃ failure, Fails host arguments failure) ∧
      (request.isRefused host →
        (watchedRun host arguments).1 = (run host arguments).run ∧
        ∀ question ∈ (watchedRun host arguments).2, request.mayAsk host question) := by
  refine ⟨fun m _ _ host arguments => satisfiesM_run host arguments, ?_⟩
  intro host arguments isVerbose request parsed
  refine ⟨?_, ?_, ?_, watchedRun_of_refused parsed⟩
  · rw [exitCode_eq_zero_iff parsed, Request.firstFailure?, List.findSome?_eq_none_iff]
    rfl
  · intro before failure after split passed
    have skipped : before.findSome? id = none := List.findSome?_eq_none_iff.mpr passed
    apply fails_of_firstFailure? parsed
    rw [Request.firstFailure?, split, List.findSome?_append, skipped]
    rfl
  · rintro detect rfl onPaths path given absent
    obtain ⟨failure, first⟩ := Option.isSome_iff_exists.mp
      (firstFailure?_of_absent onPaths given absent)
    exact ⟨failure, fails_of_firstFailure? parsed first⟩

/-- A directory whose configuration file declares a language that nothing leads to. -/
def strandedFolder : Tree where
  root := .directory [("work", .directory [
    ("langsniff.toml", .file "[[languages]]\nname = \"zig\"\n".toUTF8.data.toList),
    ("a.go", .file "package".toUTF8.data.toList)])]
  base := "/work"

def strandedHost : Host Id := { sharedHost with files := strandedFolder.fileSystem }

def misusedPaths : List String :=
  ["detect", "--profile", "compact", "--filename", "a.go", "a.go", "gone"]

def misusedRequest : DetectRequest where
  paths := ["a.go", "gone"]
  filename := some "a.go"
  noExtensionHint := false
  profile := some .compact
  format := .text
  explain := false
  config := none
  maxFileBytes := none
  noGitignore := false
  followSymlinks := false

theorem run_failing_strandedLanguage :
    Invocation.ofArguments misusedPaths = .ok ⟨false, .detect misusedRequest⟩ ∧
      Fails strandedHost misusedPaths ⟨"Invalid signature configuration",
        ["language `zig` has no rules and no extensions"]⟩ ∧
      Question.input ∉ (watchedRun strandedHost misusedPaths).2 ∧
      ∃ failure, Fails sharedHost misusedPaths failure := by
  have parsed : Invocation.ofArguments misusedPaths = .ok ⟨false, .detect misusedRequest⟩ := by
    rfl
  have checks : (Request.detect misusedRequest).checks strandedHost = [none, none,
      some ⟨"Invalid signature configuration", ["language `zig` has no rules and no extensions"]⟩,
      some ⟨"--filename only applies to stdin input", []⟩, none,
      some ⟨"Path not found: gone", []⟩] := by
    decide +kernel
  have refused : (Request.detect misusedRequest).isRefused strandedHost := by
    obtain ⟨-, after⟩ := List.cons_eq_cons.mp checks
    obtain ⟨-, later⟩ := List.cons_eq_cons.mp after
    have rejected := congrArg Option.isSome (List.cons_eq_cons.mp later).1
    exact ⟨_, List.mem_of_getElem? (i := 2) rfl, rejected⟩
  obtain ⟨-, ofStranded⟩ := run_failing
  obtain ⟨-, first, -, asked⟩ := ofStranded strandedHost misusedPaths false _ parsed
  obtain ⟨-, -, absent, -⟩ := ofStranded sharedHost misusedPaths false _ parsed
  refine ⟨parsed, first [none, none] _ _ checks (by simp), ?_, ?_⟩
  · intro member
    obtain isDirectory | ⟨directory, -, path, -, about | about⟩ := (asked refused).2 .input member
    · exact Question.noConfusion isDirectory
    · exact Question.noConfusion about
    · exact Question.noConfusion about
  · exact absent misusedRequest rfl rfl "gone" (by decide) (by decide +kernel)

end LanguageDetection.Command
