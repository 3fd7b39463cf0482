import LanguageDetection.Settings.Loading
import Mathlib

/-!
Which file settings are loaded from: the one that is asked for, else the first of the well-known
ones. What stands in other files makes no difference.
-/

namespace LanguageDetection.SettingsSource

open LanguageDetection.Files

/-- The paths of the files that may hold the settings, in the order in which they are tried. -/
def candidates (source : SettingsSource) : List Path :=
  match source.explicit with
  | some path => [path]
  | none => settingsFileNames.map (Path.join source.anchor)

def isFile (files : FileSystem Id) (path : Path) : Bool := (files.isFile path).run

/-- The file that a source stands for, if any. Well-known files are passed over where they are not
files; one that is asked for has to be there. -/
inductive Chooses (source : SettingsSource) (files : FileSystem Id) : Option Path → Prop
  | explicit {path : Path} :
      source.explicit = some path → isFile files path = true → Chooses source files (some path)
  | wellKnown {before after : List String} {name : String} :
      source.explicit = none → settingsFileNames = before ++ name :: after →
      (∀ other ∈ before, isFile files (Path.join source.anchor other) = false) →
      isFile files (Path.join source.anchor name) = true →
      Chooses source files (some (Path.join source.anchor name))
  | nothing :
      source.explicit = none →
      (∀ name ∈ settingsFileNames, isFile files (Path.join source.anchor name) = false) →
      Chooses source files none

section

variable {source : SettingsSource} {files files' : FileSystem Id}

theorem firstFile_eq_find? (paths : List Path) :
    (firstFile files paths).run = paths.find? (isFile files) := by
  induction paths with
  | nil => rfl
  | cons path rest ih =>
      simp only [firstFile, Id.run_bind, apply_ite Id.run, Id.run_pure, ih, List.find?_cons]
      cases known : isFile files path <;>
        simp only [isFile] at known <;> simp [known]

theorem file?_eq :
    (source.file? files).run = match source.explicit with
      | some path => if isFile files path then .ok (some path) else .error (.notFound path)
      | none => .ok ((settingsFileNames.map (Path.join source.anchor)).find? (isFile files)) := by
  unfold file?
  cases source.explicit with
  | none => simp only [Id.run_bind, Id.run_pure, firstFile_eq_find?]
  | some path =>
      simp only [Id.run_bind, apply_ite Id.run, Id.run_pure]
      rfl

theorem file?_eq_error_iff {error : LoadError} :
    (source.file? files).run = .error error ↔
      ∃ path, source.explicit = some path ∧ isFile files path = false ∧ error = .notFound path := by
  rw [file?_eq]
  cases source.explicit with
  | none => simp
  | some path =>
      cases known : isFile files path with
      | false => simp [known, eq_comm (a := error)]
      | true => simp [known]

theorem file?_eq_ok_iff {chosen : Option Path} :
    (source.file? files).run = .ok chosen ↔ Chooses source files chosen := by
  rw [file?_eq]
  constructor
  · intro found
    cases asked : source.explicit with
    | some path =>
        rw [asked] at found
        cases known : isFile files path with
        | false => simp [known] at found
        | true =>
            simp only [known, if_true, Except.ok.injEq] at found
            exact found ▸ .explicit asked known
    | none =>
        simp only [asked, Except.ok.injEq] at found
        subst found
        rw [List.find?_map]
        cases first : settingsFileNames.find? (isFile files ∘ Path.join source.anchor) with
        | none =>
            refine .nothing asked fun name member => ?_
            simpa using List.find?_eq_none.mp first name member
        | some name =>
            obtain ⟨known, before, after, split, skipped⟩ := List.find?_eq_some_iff_append.mp first
            refine .wellKnown asked split ?_ known
            intro other earlier
            simpa using skipped other earlier
  · intro chooses
    cases chooses with
    | explicit asked known => simp [asked, known]
    | wellKnown asked split skipped known =>
        simp only [asked, Except.ok.injEq, List.find?_map, split]
        rename_i before after name
        have first : (before ++ name :: after).find? (isFile files ∘ Path.join source.anchor) =
            some name := by
          rw [List.find?_eq_some_iff_append]
          refine ⟨known, before, after, rfl, ?_⟩
          intro other earlier
          simpa using skipped other earlier
        rw [first]
        rfl
    | nothing asked absent =>
        simp only [asked, Except.ok.injEq, List.find?_map, Option.map_eq_none_iff,
          List.find?_eq_none]
        intro name member
        simp [absent name member]

theorem Chooses.mem_candidates {path : Path} (chooses : Chooses source files (some path)) :
    path ∈ source.candidates := by
  rw [candidates]
  cases chooses with
  | explicit asked known =>
      rw [asked]
      exact List.mem_singleton_self path
  | wellKnown asked split skipped known =>
      rw [asked]
      exact List.mem_map_of_mem (split ▸ List.mem_append_right _ List.mem_cons_self)

theorem load_eq :
    (source.load files).run.1 = match (source.file? files).run with
      | .error error => .error error
      | .ok chosen =>
          source.settingsOf (chosen.map fun path => (path, (files.bytes path).run)) := by
  simp only [load, Id.run_bind]
  cases (source.file? files).run with
  | error error => rfl
  | ok chosen => cases chosen <;> rfl

theorem file?_congr (sameFiles : ∀ path ∈ source.candidates, isFile files path = isFile files' path) :
    (source.file? files).run = (source.file? files').run := by
  rw [file?_eq, file?_eq]
  unfold candidates at sameFiles
  cases asked : source.explicit with
  | some path =>
      rw [asked] at sameFiles
      simp only [sameFiles path (List.mem_singleton_self path)]
  | none =>
      rw [asked] at sameFiles
      exact congrArg Except.ok (List.find?_congr sameFiles)

/-- Two file systems that have the same candidates as files, and the same bytes in the chosen one,
are not told apart. -/
theorem load_congr (sameFiles : ∀ path ∈ source.candidates, isFile files path = isFile files' path)
    (sameBytes : ∀ path, Chooses source files (some path) →
      (files.bytes path).run = (files'.bytes path).run) :
    (source.load files).run = (source.load files').run := by
  simp only [load, Id.run_bind, ← file?_congr sameFiles]
  cases chosen : (source.file? files).run with
  | error error => rfl
  | ok chosen' =>
      cases chosen' with
      | none => rfl
      | some path =>
          simp only [Id.run_bind]
          rw [sameBytes path (file?_eq_ok_iff.mp chosen)]

end

end LanguageDetection.SettingsSource
