import LanguageDetection.Files.Tree
import LanguageDetection.Proofs.Command.Failing
import LanguageDetection.Proofs.Command.Parsing
import LanguageDetection.Proofs.Settings.Layered

/-!
What a run is configured with: options of the command line above environment variables above the
chosen file above the defaults.
-/

namespace LanguageDetection.Command

open LanguageDetection.Files
open LanguageDetection.SettingsSource

/-- A setting that a flag fixes. Without the flag the layers below decide it. -/
def IsFixed (flag fixed : Bool) (scalar : Scalar Bool) (environment : List (String × String))
    (file : Document) (value : Bool) : Prop :=
  if flag then value = fixed else scalar.Decides none environment file value

structure DetectRequest.Decides (request : DetectRequest) (environment : List (String × String))
    (file : Document) (settings : Settings) : Prop where
  profile : Scalar.profile.Decides request.profile environment file settings.profile
  maxFileBytes :
    Scalar.maxFileBytes.Decides request.maxFileBytes environment file settings.maxFileBytes
  noGitignore : IsFixed request.noGitignore false Scalar.respectGitignore environment file
    settings.respectGitignore
  followSymlinks : IsFixed request.followSymlinks true Scalar.followSymlinks environment file
    settings.followSymlinks
  noExtensionHint : IsFixed request.noExtensionHint false Scalar.extensionHint environment file
    settings.extensionHint

/-- A request for languages has an option for the profile only. -/
structure LanguagesRequest.Decides (request : LanguagesRequest)
    (environment : List (String × String)) (file : Document) (settings : Settings) : Prop where
  profile : Scalar.profile.Decides request.profile environment file settings.profile
  maxFileBytes : Scalar.maxFileBytes.Decides none environment file settings.maxFileBytes
  respectGitignore :
    Scalar.respectGitignore.Decides none environment file settings.respectGitignore
  followSymlinks : Scalar.followSymlinks.Decides none environment file settings.followSymlinks
  extensionHint : Scalar.extensionHint.Decides none environment file settings.extensionHint

def Request.Decides : Request → List (String × String) → Document → Settings → Prop
  | .detect request => request.Decides
  | .languages request => request.Decides

section

variable {environment : List (String × String)} {file : Document} {settings : Settings}

theorem isFixed_of_decides {flag fixed value : Bool} {scalar : Scalar Bool}
    (decides : scalar.Decides (if flag then some fixed else none) environment file value) :
    IsFixed flag fixed scalar environment file value := by
  cases flag with
  | false => exact decides
  | true =>
      cases decides
      case override fixes => exact (Option.some.inj fixes).symm
      all_goals contradiction

theorem Request.decides_of_layered {request : Request}
    (layered : settings.Layered environment file request.overrides) :
    request.Decides environment file settings := by
  cases request with
  | detect request =>
      exact {
        profile := layered.profile
        maxFileBytes := layered.maxFileBytes
        noGitignore := isFixed_of_decides layered.respectGitignore
        followSymlinks := isFixed_of_decides layered.followSymlinks
        noExtensionHint := isFixed_of_decides layered.extensionHint }
  | languages request =>
      exact {
        profile := layered.profile
        maxFileBytes := layered.maxFileBytes
        respectGitignore := layered.respectGitignore
        followSymlinks := layered.followSymlinks
        extensionHint := layered.extensionHint }

end

/-- Whether a request looks at files besides those that hold its settings. -/
def Request.readsFiles : Request → Bool
  | .detect request => !request.readsInput
  | .languages _ => false

section

variable {host : Host Id} {request : Request} {arguments : List String} {isVerbose : Bool}

/-- Files in which the same settings are found make no difference to a request that looks at no
others. -/
theorem runRequest_congr {files' : FileSystem Id}
    (same : ∀ directory, host.directory.run = .ok directory →
      ((host.source directory request.config).load host.files).run =
        ((host.source directory request.config).load files').run)
    (noFiles : request.readsFiles = false) :
    (runRequest host request).progress =
      (runRequest { host with files := files' } request).progress := by
  refine Stage.progress_bind_congr fun directory starts => ?_
  rw [result_currentDirectory, mapError_eq_ok_iff] at starts
  have loads : loadSettings host directory request.config =
      loadSettings { host with files := files' } directory request.config :=
    congrArg (fun load => (Stage.ask load >>= _ : Stage Id Settings)) (same directory starts)
  rw [loads]
  refine Stage.progress_bind_congr fun settings _ => ?_
  refine Stage.progress_bind_congr fun registry _ => ?_
  cases request with
  | languages request => rfl
  | detect request =>
      have readsInput : request.readsInput = true := by simpa [Request.readsFiles] using noFiles
      simp only [detectWith_of_readsInput readsInput]
      rfl

theorem fails_of_absentConfig {directory : Path} (isStart : host.directory.run = .ok directory)
    (parsed : Invocation.ofArguments arguments = .ok ⟨isVerbose, request⟩) {path : Path}
    (asked : request.config = some path) (absent : isFile host.files path = false) :
    Fails host arguments ⟨"Config file not found: " ++ path, []⟩ := by
  apply fails_of_firstFailure? parsed
  have notFound : ((host.source directory request.config).file? host.files).run =
      .error (.notFound path) := file?_eq_error_iff.mpr ⟨path, asked, absent, rfl⟩
  have loaded : request.loaded? host = some (.error (.notFound path)) := by
    rw [Request.loaded?, isStart]
    change some ((host.source directory request.config).load host.files).run.1 = _
    rw [load_eq, notFound]
  have started : Request.directoryFailure? host = none := by
    rw [Request.directoryFailure?, isStart]
    rfl
  have refused : request.settingsFailure? host =
      some ⟨"Config file not found: " ++ path, []⟩ := by
    rw [Request.settingsFailure?, loaded]
    rfl
  rw [Request.firstFailure?, Request.checks, Request.settingsChecks, started, refused]
  rfl

/-- Where the settings of a run come from. An option is above the variables, these above the file,
and the file above the defaults. A file that is asked for has to be there, and those that are not
chosen do not matter. Any options can be given, in any order. -/
theorem settings_layered {directory : Path} (isStart : host.directory.run = .ok directory)
    (parsed : Invocation.ofArguments arguments = .ok ⟨isVerbose, request⟩) :
    (∀ path, request.config = some path → isFile host.files path = false →
      Fails host arguments ⟨"Config file not found: " ++ path, []⟩) ∧
    (∀ loaded, ((host.source directory request.config).load host.files).run.1 = .ok loaded →
      ∃ chosen file settings, Chooses (host.source directory request.config) host.files chosen ∧
        (host.source directory request.config).Holds host.files chosen file ∧
        request.Decides host.environment file settings ∧
        settings.languages = loaded.languages ∧ settings.extensions = loaded.extensions ∧
        (∀ overrides, (loaded.override overrides).Layered host.environment file overrides) ∧
        ∃ entries : List Log.Entry, (runRequest host request).progress =
          (runUnder host directory settings request).progress.after (entries.map .logged)) ∧
    (∀ files' : FileSystem Id,
      (∀ path ∈ (host.source directory request.config).candidates,
        isFile host.files path = isFile files' path) →
      (∀ path, Chooses (host.source directory request.config) host.files (some path) →
        (host.files.bytes path).run = (files'.bytes path).run) →
      ((host.source directory request.config).load host.files).run =
          ((host.source directory request.config).load files').run ∧
        (request.readsFiles = false → (run host arguments).run =
          (run { host with files := files' } arguments).run)) ∧
    ∀ invocation line, Invocation.IsSpelled invocation line →
      Invocation.ofArguments line = .ok invocation := by
  refine ⟨fun path => fails_of_absentConfig isStart parsed, ?_, ?_,
    fun invocation line => Invocation.IsSpelled.ofArguments⟩
  · intro loaded load
    obtain ⟨chosen, file, chooses, holds, read⟩ := load_eq_ok_iff.mp load
    have layered := Settings.layered_of_read holds.isPlain.1 read
    have configures : Configures host request directory (loaded.override request.overrides) :=
      ⟨isStart, loaded, load, rfl⟩
    exact ⟨chosen, file, _, chooses, holds, Request.decides_of_layered (layered request.overrides),
      rfl, rfl, layered, configures.progress_runRequest⟩
  · intro files' sameFiles sameBytes
    have same := load_congr sameFiles sameBytes
    refine ⟨same, fun noFiles => ?_⟩
    have progress : (runRequest host request).progress =
        (runRequest { host with files := files' } request).progress := by
      refine runRequest_congr (fun place starts => ?_) noFiles
      obtain rfl : directory = place := Except.ok.inj (isStart.symm.trans starts)
      exact same
    rw [run_eq parsed, run_eq parsed, progress]
    rfl

end

def configuredFolder (shadowed : String) : Files.Tree where
  root := .directory [("work", .directory [
    ("langsniff.toml", .file
      "profile = \"compact\"\nmax_file_bytes = 100\nrespect_gitignore = false\n".toUTF8.data.toList),
    (".langsniff.toml", .file shadowed.toUTF8.data.toList)])]
  base := "/work"

def configuredHost (shadowed : String) : Host Id where
  files := (configuredFolder shadowed).fileSystem
  directory := pure (.ok "/work")
  environment := [("LANGSNIFF_RESPECT_GITIGNORE", "true"), ("langsniff_profile", " \"standard\" ")]
  input := pure (.ok [])

def configuredLine (config : Option Path) : List String :=
  "languages" :: ((LanguagesRequest.options ⟨.text, some .compact, config⟩ false).map Given.spelling)

/-- Each layer decides a setting, above a file that is shadowed and not well-formed. -/
theorem settings_layered_shadowedFile :
    let host := configuredHost "= ="
    let request : Request := .languages ⟨.text, some .compact, none⟩
    ((host.source "/work" none).load host.files).run.1 =
        .ok { profile := .standard, maxFileBytes := 100, respectGitignore := true } ∧
      Fails host (configuredLine (some "absent.toml"))
        ⟨"Config file not found: absent.toml", []⟩ ∧
      (∃ chosen file settings, Chooses (host.source "/work" none) host.files chosen ∧
        (host.source "/work" none).Holds host.files chosen file ∧
        request.Decides host.environment file settings) ∧
      (run host (configuredLine none)).run =
        (run (configuredHost "profile = 1") (configuredLine none)).run := by
  intro host request
  have isStart : host.directory.run = .ok "/work" := rfl
  have spelled {config : Option Path} (nonempty : config ≠ some "") :
      Invocation.ofArguments (configuredLine config) =
        .ok ⟨false, .languages ⟨.text, some .compact, config⟩⟩ :=
    (Invocation.IsSpelled.languages (List.Perm.refl _) nonempty).ofArguments
  have loaded : ((host.source "/work" none).load host.files).run.1 =
      .ok { profile := .standard, maxFileBytes := 100, respectGitignore := true } := by
    decide +kernel
  have first : ((host.source "/work" none).file? host.files).run =
      .ok (some "/work/langsniff.toml") := by
    decide +kernel
  have parsed := spelled (show none ≠ some "" by decide)
  have parsed' := spelled (show some "absent.toml" ≠ some "" by decide)
  obtain ⟨-, layered, unchanged, -⟩ := settings_layered isStart parsed
  obtain ⟨chosen, file, settings, chooses, holds, decides, -⟩ := layered _ loaded
  refine ⟨loaded, ?_, ⟨chosen, file, settings, chooses, holds, decides⟩, ?_⟩
  · exact (settings_layered isStart parsed').1 "absent.toml" rfl (by decide +kernel)
  · refine (unchanged (configuredHost "profile = 1").files (by decide +kernel) ?_).2 rfl
    intro path chooses
    have same := (file?_eq_ok_iff.mpr chooses).symm.trans first
    rw [Option.some.inj (Except.ok.inj same)]
    decide +kernel

end LanguageDetection.Command
