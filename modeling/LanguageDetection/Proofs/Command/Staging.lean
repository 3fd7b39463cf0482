import LanguageDetection.Command.Outcome
import Mathlib

/-!
Parts of a run put together: what the whole yields and prints, and when nothing is printed before a
failure.
-/

namespace LanguageDetection.Command

variable {α β : Type}

@[simp] theorem Progress.result_after (events : List Event) (progress : Progress α) :
    (progress.after events).result = progress.result := rfl

@[simp] theorem Progress.printed_after (events : List Event) (progress : Progress α) :
    (progress.after events).printed = events.filterMap Event.printed? ++ progress.printed :=
  List.filterMap_append

namespace Stage

/-- How far a part of a run comes with a host that answers at once. -/
def progress (stage : Stage Id α) : Progress α := stage.run.run

section Progress

variable {stage : Stage Id α} {next : α → Stage Id β}

@[simp] theorem progress_ask (question : Id α) :
    (ask question).progress = { result := .ok question.run } := rfl

@[simp] theorem progress_ofExcept (result : Except Failure α) :
    (ofExcept result).progress = { result } := rfl

@[simp] theorem progress_log (entries : List Log.Entry) :
    (log entries).progress = { result := .ok (), events := entries.map .logged } := rfl

theorem progress_bind_of_ok {value : α} (yields : stage.progress.result = .ok value) :
    (stage >>= next).progress = (next value).progress.after stage.progress.events := by
  change (bind stage next).run.run = _
  unfold progress at yields ⊢
  simp only [bind, Id.run_bind, yields, Id.run_pure]

theorem progress_bind_of_error {failure : Failure}
    (fails : stage.progress.result = .error failure) :
    (stage >>= next).progress = { result := .error failure, events := stage.progress.events } := by
  change (bind stage next).run.run = _
  unfold progress at fails ⊢
  simp only [bind, Id.run_bind, fails, Id.run_pure]

@[simp] theorem progress_bind_ask (question : Id α) :
    (ask question >>= next).progress = (next question.run).progress :=
  progress_bind_of_ok rfl

@[simp] theorem result_bind :
    (stage >>= next).progress.result =
      stage.progress.result.bind fun value => (next value).progress.result := by
  cases yields : stage.progress.result with
  | error failure =>
      rw [progress_bind_of_error yields]
      rfl
  | ok value =>
      rw [progress_bind_of_ok yields]
      rfl

theorem progress_bind_congr {next' : α → Stage Id β}
    (same : ∀ value, stage.progress.result = .ok value →
      (next value).progress = (next' value).progress) :
    (stage >>= next).progress = (stage >>= next').progress := by
  cases result : stage.progress.result with
  | error failure => rw [progress_bind_of_error result, progress_bind_of_error result]
  | ok value => rw [progress_bind_of_ok result, progress_bind_of_ok result, same value result]

theorem progress_printAll (lines : List String) :
    (printAll lines).progress =
      { result := .ok (), events := lines.map fun line => .printed (line ++ "\n") } := by
  induction lines with
  | nil => rfl
  | cons line rest ih =>
      change (print line >>= fun _ => printAll rest).progress = _
      rw [progress_bind_of_ok rfl, ih]
      rfl

end Progress

section Printing

variable {m : Type → Type} [Monad m] [LawfulMonad m]

def IsQuiet (stage : Stage m α) : Prop :=
  SatisfiesM (fun progress => progress.printed = []) stage.run

/-- What fails has printed nothing. -/
def IsAtomic (stage : Stage m α) : Prop :=
  SatisfiesM (fun progress => ∀ failure, progress.result = .error failure → progress.printed = [])
    stage.run

theorem isQuiet_ofProgress {progress : Progress α} (silent : progress.printed = []) :
    IsQuiet (ofProgress progress : Stage m α) :=
  SatisfiesM.pure silent

theorem isQuiet_ofExcept (result : Except Failure α) : IsQuiet (ofExcept result : Stage m α) :=
  isQuiet_ofProgress rfl

theorem isQuiet_ask (question : m α) : IsQuiet (ask question) := by
  have any : SatisfiesM (fun _ => True) question := SatisfiesM.trivial
  apply SatisfiesM.bind any
  intro value _
  exact SatisfiesM.pure rfl

theorem printed_log (entries : List Log.Entry) :
    (entries.map Event.logged).filterMap Event.printed? = [] := by
  induction entries with
  | nil => rfl
  | cons entry rest ih => exact ih

theorem isQuiet_log (entries : List Log.Entry) : IsQuiet (log entries : Stage m Unit) :=
  isQuiet_ofProgress (printed_log entries)

theorem IsQuiet.isAtomic {stage : Stage m α} (quiet : IsQuiet stage) : IsAtomic stage :=
  SatisfiesM.imp quiet fun silent _ _ => silent

theorem IsQuiet.bind {stage : Stage m α} {next : α → Stage m β} (quiet : IsQuiet stage)
    (later : ∀ value, IsQuiet (next value)) : IsQuiet (stage >>= next) := by
  apply SatisfiesM.bind quiet
  intro first silent
  cases first.result with
  | error failure => exact SatisfiesM.pure silent
  | ok value =>
      apply SatisfiesM.bind (later value)
      intro second silent'
      refine SatisfiesM.pure ?_
      rw [Progress.printed_after, silent', List.append_nil]
      exact silent

theorem IsQuiet.bind_isAtomic {stage : Stage m α} {next : α → Stage m β} (quiet : IsQuiet stage)
    (later : ∀ value, IsAtomic (next value)) : IsAtomic (stage >>= next) := by
  apply SatisfiesM.bind quiet
  intro first silent
  cases first.result with
  | error failure => exact SatisfiesM.pure fun _ _ => silent
  | ok value =>
      apply SatisfiesM.bind (later value)
      intro second atomic
      refine SatisfiesM.pure fun failure fails => ?_
      rw [Progress.printed_after, atomic failure fails, List.append_nil]
      exact silent

def IsSure (stage : Stage m α) : Prop :=
  SatisfiesM (fun progress => ∃ value, progress.result = .ok value) stage.run

theorem IsSure.isAtomic {stage : Stage m α} (sure : IsSure stage) : IsAtomic stage := by
  refine SatisfiesM.imp sure ?_
  rintro progress ⟨value, yields⟩ failure fails
  rw [yields] at fails
  contradiction

theorem isSure_printAll (lines : List String) : IsSure (printAll lines : Stage m Unit) := by
  induction lines with
  | nil => exact SatisfiesM.pure ⟨(), rfl⟩
  | cons line rest ih =>
      change IsSure (bind (print line) fun _ => printAll rest)
      have printed : SatisfiesM (fun progress => progress.result = .ok ())
          (print line : Stage m Unit).run := SatisfiesM.pure rfl
      apply SatisfiesM.bind printed
      intro first yields
      rw [yields]
      apply SatisfiesM.bind ih
      rintro second ⟨value, yields'⟩
      exact SatisfiesM.pure ⟨value, yields'⟩

end Printing

section Prints

theorem IsQuiet.printed {stage : Stage Id α} (quiet : IsQuiet stage) :
    stage.progress.printed = [] := by
  have silent := quiet
  rwa [IsQuiet, SatisfiesM_Id_eq] at silent

theorem IsAtomic.printed_eq_nil {stage : Stage Id α} (atomic : IsAtomic stage) {failure : Failure}
    (fails : stage.progress.result = .error failure) : stage.progress.printed = [] := by
  have silent := atomic
  rw [IsAtomic, SatisfiesM_Id_eq] at silent
  exact silent failure fails

structure Prints (stage : Stage Id Unit) (lines : List String) : Prop where
  succeeds : stage.progress.result = .ok ()
  printed : stage.progress.printed = lines.map (· ++ "\n")

theorem prints_printAll (lines : List String) : Prints (printAll lines) lines where
  succeeds := by rw [progress_printAll]
  printed := by
    rw [progress_printAll, Progress.printed, List.filterMap_map]
    exact congrFun List.filterMap_eq_map lines

theorem IsQuiet.prints_bind {stage : Stage Id α} {next : α → Stage Id Unit} {value : α}
    {lines : List String} (quiet : IsQuiet stage) (yields : stage.progress.result = .ok value)
    (prints : Prints (next value) lines) : Prints (stage >>= next) lines where
  succeeds := by
    rw [progress_bind_of_ok yields]
    exact prints.succeeds
  printed := by
    rw [progress_bind_of_ok yields, Progress.printed_after, ← prints.printed]
    exact congrArg (· ++ _) quiet.printed

theorem prints_bind_ask {question : Id α} {next : α → Stage Id Unit} {lines : List String}
    (prints : Prints (next question.run) lines) : Prints (ask question >>= next) lines :=
  (isQuiet_ask question).prints_bind (progress_ask question ▸ rfl) prints

theorem Prints.output {stage : Stage Id Unit} {lines : List String} (prints : Prints stage lines) :
    stage.progress.output = String.join (lines.map (· ++ "\n")) := by
  rw [Progress.output, prints.printed]

end Prints

end Stage

end LanguageDetection.Command
