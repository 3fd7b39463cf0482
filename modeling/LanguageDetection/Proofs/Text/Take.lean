import LanguageDetection.Text.Take
import Mathlib

/-!
What steps of reading can yield: a property that holds of whatever a step reads.
-/

namespace LanguageDetection.Text.Take

variable {α β : Type} {holds : α → Prop} {step : Take α}

/-- Whatever the step reads, it holds of that. -/
def Yields (holds : α → Prop) (step : Take α) : Prop :=
  ∀ chars value rest, step chars = some (value, rest) → holds value

namespace Yields

theorem pure {value : α} (ofValue : holds value) : Yields holds (Pure.pure value : Take α) := by
  intro chars other rest read
  obtain rfl : value = other := congrArg Prod.fst (Option.some.inj read)
  exact ofValue

theorem fail : Yields holds Take.fail := by
  intro chars value rest read
  contradiction

theorem any (step : Take α) : Yields (fun _ => True) step :=
  fun _ _ _ _ => trivial

theorem bind {ofResult : β → Prop} {next : α → Take β} (first : Yields holds step)
    (second : ∀ value, holds value → Yields ofResult (next value)) :
    Yields ofResult (step >>= next) := by
  intro chars result rest read
  obtain ⟨⟨value, left⟩, readFirst, readNext⟩ := Option.bind_eq_some_iff.mp read
  exact second value (first chars value left readFirst) left result rest readNext

/-- The first step may read anything. -/
theorem after {ofResult : β → Prop} {next : α → Take β}
    (second : ∀ value, Yields ofResult (next value)) : Yields ofResult (step >>= next) :=
  bind (any step) fun value _ => second value

theorem map {ofResult : β → Prop} {f : α → β} (yields : Yields holds step)
    (next : ∀ value, holds value → ofResult (f value)) : Yields ofResult (f <$> step) := by
  rw [← bind_pure_comp]
  exact bind yields fun value ofValue => pure (next value ofValue)

theorem orElse {other : Unit → Take α} (first : Yields holds step)
    (second : Yields holds (other ())) : Yields holds (HOrElse.hOrElse step other) := by
  intro chars value rest read
  cases tried : step chars with
  | none =>
      refine second chars value rest ?_
      simpa [HOrElse.hOrElse, OrElse.orElse, Alternative.orElse, StateT.orElse, tried] using read
  | some result =>
      refine first chars value rest ?_
      simpa [HOrElse.hOrElse, OrElse.orElse, Alternative.orElse, StateT.orElse, tried] using read

theorem fueled {step : Nat → Take α} (yields : ∀ fuel, Yields holds (step fuel)) :
    Yields holds (Take.fueled step) :=
  fun chars => yields (chars.length + 1) chars

end Yields

end LanguageDetection.Text.Take
