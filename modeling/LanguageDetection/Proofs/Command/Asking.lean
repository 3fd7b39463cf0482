import LanguageDetection.Proofs.Command.Running
import LanguageDetection.Proofs.Settings.Choosing

/-!
What a run asks of its host. A watched host answers as before and notes the questions that it is
asked; settings are loaded without a question about anything but the files that may hold them.
-/

namespace LanguageDetection.Command

open LanguageDetection.Files

inductive Question
  | directory
  | status (path : Path)
  | entries (path : Path)
  | bytes (path : Path)
  | canonical (path : Path)
  | input
  deriving Repr, DecidableEq

/-- Computations that note the questions they ask, in order. -/
abbrev Watched := StateM (List Question)

def noted {α : Type} (question : Question) (answer : Id α) : Watched α :=
  fun asked => (answer.run, asked ++ [question])

def watchedFiles (files : FileSystem Id) : FileSystem Watched where
  status path := noted (.status path) (files.status path)
  entries path := noted (.entries path) (files.entries path)
  bytes path := noted (.bytes path) (files.bytes path)
  canonical path := noted (.canonical path) (files.canonical path)

def Host.watched (host : Host Id) : Host Watched where
  files := watchedFiles host.files
  directory := noted .directory host.directory
  environment := host.environment
  input := noted .input host.input

/-- What a run of a watched host leaves behind, and what it has asked. -/
def watchedRun (host : Host Id) (arguments : List String) : Outcome × List Question :=
  ((run host.watched arguments).run []).run

/-- A computation comes to a value, and asks only what is allowed. -/
def Asks {α : Type} (allowed : Question → Prop) (watched : Watched α) (value : α) : Prop :=
  ∀ asked, ∃ more, (watched.run asked).run = (value, asked ++ more) ∧
    ∀ question ∈ more, allowed question

namespace Asks

variable {α β : Type} {allowed : Question → Prop}

theorem pure (value : α) : Asks allowed (Pure.pure value) value := by
  intro asked
  refine ⟨[], ?_, fun question member => nomatch member⟩
  rw [List.append_nil]
  rfl

theorem noted {question : Question} (isAllowed : allowed question) (answer : Id α) :
    Asks allowed (noted question answer) answer.run := by
  intro asked
  refine ⟨[question], rfl, ?_⟩
  intro other member
  rwa [List.mem_singleton.mp member]

theorem bind {watched : Watched α} {next : α → Watched β} {value : α} {result : β}
    (first : Asks allowed watched value) (second : Asks allowed (next value) result) :
    Asks allowed (watched >>= next) result := by
  intro asked
  obtain ⟨more, ran, moreAllowed⟩ := first asked
  obtain ⟨others, ran', othersAllowed⟩ := second (asked ++ more)
  refine ⟨more ++ others, ?_, ?_⟩
  · rw [← List.append_assoc, ← ran']
    exact congrArg (fun state : α × List Question => ((next state.1).run state.2).run) ran
  · intro question member
    rcases List.mem_append.mp member with inMore | inOthers
    · exact moreAllowed question inMore
    · exact othersAllowed question inOthers

theorem mono {allowed' : Question → Prop} {watched : Watched α} {value : α}
    (asks : Asks allowed watched value) (wider : ∀ question, allowed question → allowed' question) :
    Asks allowed' watched value := by
  intro asked
  obtain ⟨more, ran, moreAllowed⟩ := asks asked
  exact ⟨more, ran, fun question member => wider question (moreAllowed question member)⟩

end Asks

/-- A part of a run that is watched comes as far as it would otherwise, and asks only what is
allowed. -/
def Mirrors {α : Type} (allowed : Question → Prop) (watched : Stage Watched α) (plain : Stage Id α) :
    Prop :=
  Asks allowed watched.run plain.progress

namespace Mirrors

variable {α β : Type} {allowed : Question → Prop}

theorem ofProgress (progress : Progress α) :
    Mirrors allowed (Stage.ofProgress progress) (Stage.ofProgress progress) :=
  Asks.pure progress

theorem ask {watched : Watched α} {answer : Id α} (asks : Asks allowed watched answer.run) :
    Mirrors allowed (Stage.ask watched) (Stage.ask answer) :=
  Asks.bind asks (Asks.pure _)

theorem bind {watched : Stage Watched α} {plain : Stage Id α} {next : α → Stage Watched β}
    {next' : α → Stage Id β} (first : Mirrors allowed watched plain)
    (later : ∀ value, plain.progress.result = .ok value →
      Mirrors allowed (next value) (next' value)) :
    Mirrors allowed (watched >>= next) (plain >>= next') := by
  cases result : plain.progress.result with
  | error failure =>
      rw [Mirrors, Stage.progress_bind_of_error result]
      refine Asks.bind first ?_
      simp only [result]
      exact Asks.pure _
  | ok value =>
      rw [Mirrors, Stage.progress_bind_of_ok result]
      refine Asks.bind first ?_
      simp only [result]
      exact Asks.bind (later value result) (Asks.pure _)

end Mirrors

def Question.isAbout (source : SettingsSource) (question : Question) : Prop :=
  ∃ path ∈ source.candidates, question = .status path ∨ question = .bytes path

section

variable {source : SettingsSource} {files : FileSystem Id}

theorem asks_kind? {path : Path} (candidate : path ∈ source.candidates) :
    Asks (·.isAbout source) ((watchedFiles files).kind? path) (files.kind? path).run := by
  refine Asks.bind (Asks.noted ⟨path, candidate, Or.inl rfl⟩ (files.status path)) ?_
  simp only [FileSystem.kind?, Id.run_bind]
  cases (files.status path).run with
  | error error => exact Asks.pure none
  | ok status => exact Asks.pure (some status.kind)

theorem asks_isFile {path : Path} (candidate : path ∈ source.candidates) :
    Asks (·.isAbout source) ((watchedFiles files).isFile path)
      (SettingsSource.isFile files path) :=
  Asks.bind (asks_kind? candidate) (Asks.pure _)

theorem asks_firstFile {paths : List Path} (candidates : ∀ path ∈ paths, path ∈ source.candidates) :
    Asks (·.isAbout source) (SettingsSource.firstFile (watchedFiles files) paths)
      (SettingsSource.firstFile files paths).run := by
  induction paths with
  | nil => exact Asks.pure none
  | cons path rest ih =>
      have isFile : Asks (·.isAbout source) ((watchedFiles files).isFile path) _ :=
        asks_isFile (candidates path List.mem_cons_self)
      have others := ih fun other member => candidates other (List.mem_cons_of_mem path member)
      refine Asks.bind isFile ?_
      rw [SettingsSource.firstFile_eq_find?] at others ⊢
      rw [List.find?_cons]
      cases SettingsSource.isFile files path with
      | true => exact Asks.pure (some path)
      | false => exact others

theorem asks_file? :
    Asks (·.isAbout source) (source.file? (watchedFiles files)) (source.file? files).run := by
  rw [SettingsSource.file?_eq]
  unfold SettingsSource.file?
  cases asked : source.explicit with
  | some path =>
      have candidate : path ∈ source.candidates := by
        rw [SettingsSource.candidates, asked]
        exact List.mem_singleton_self path
      refine Asks.bind (asks_isFile candidate) ?_
      dsimp only
      cases SettingsSource.isFile files path with
      | true => exact Asks.pure _
      | false => exact Asks.pure _
  | none =>
      have candidates : ∀ path ∈ settingsFileNames.map (Path.join source.anchor),
          path ∈ source.candidates := by
        rw [SettingsSource.candidates, asked]
        exact fun path member => member
      rw [← SettingsSource.firstFile_eq_find?]
      exact Asks.bind (asks_firstFile candidates) (Asks.pure _)

theorem asks_load :
    Asks (·.isAbout source) (source.load (watchedFiles files)) (source.load files).run := by
  unfold SettingsSource.load
  refine Asks.bind asks_file? ?_
  simp only [Id.run_bind]
  cases chosen : (source.file? files).run with
  | error error => exact Asks.pure _
  | ok chosen' =>
      cases chosen' with
      | none => exact Asks.pure _
      | some path =>
          have candidate := (SettingsSource.file?_eq_ok_iff.mp chosen).mem_candidates
          exact Asks.bind (Asks.noted ⟨path, candidate, Or.inr rfl⟩ (files.bytes path)) (Asks.pure _)

end

section

variable {host : Host Id} {request : Request}

/-- Whether a question is one that a request may ask for its settings: for the directory that it is
made in, and about the files that may hold them. -/
def Request.mayAsk (host : Host Id) (request : Request) (question : Question) : Prop :=
  question = .directory ∨ ∃ directory, host.directory.run = .ok directory ∧
    question.isAbout (host.source directory request.config)

theorem mirrors_currentDirectory :
    Mirrors (request.mayAsk host) (currentDirectory host.watched) (currentDirectory host) := by
  refine Mirrors.bind (Mirrors.ask (Asks.noted (Or.inl rfl) host.directory)) ?_
  intro directory _
  exact Mirrors.ofProgress _

theorem mirrors_loadSettings {directory : Path} (isStart : host.directory.run = .ok directory) :
    Mirrors (request.mayAsk host) (loadSettings host.watched directory request.config)
      (loadSettings host directory request.config) := by
  have asks : Asks (request.mayAsk host)
      ((host.source directory request.config).load (watchedFiles host.files))
      ((host.source directory request.config).load host.files).run :=
    asks_load.mono fun question about => Or.inr ⟨directory, isStart, about⟩
  refine Mirrors.bind (Mirrors.ask asks) ?_
  rintro ⟨result, entries⟩ _
  exact Mirrors.bind (Mirrors.ofProgress _) fun _ _ => Mirrors.ofProgress _

end

end LanguageDetection.Command
