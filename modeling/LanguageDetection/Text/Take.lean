namespace LanguageDetection.Text

abbrev Take := StateT (List Char) Option

namespace Take

def fail : Take α := fun _ => none

def peek? : Take (Option Char) := fun rest => some (rest.head?, rest)

def satisfy (p : Char → Bool) : Take Char
  | [] => none
  | c :: rest => if p c then some (c, rest) else none

def char (c : Char) : Take Unit := do
  let _ ← satisfy (· == c)

def chars : List Char → Take Unit
  | [] => pure ()
  | c :: cs => do
      char c
      chars cs

def takeWhile (p : Char → Bool) : Take (List Char) := fun rest =>
  some (rest.takeWhile p, rest.dropWhile p)

def attempt (step : Take α) : Take (Option α) := fun rest =>
  match step rest with
  | some (value, rest) => some (some value, rest)
  | none => some (none, rest)

def fueled (step : Nat → Take α) : Take α := fun rest => step (rest.length + 1) rest

end Take

end LanguageDetection.Text
