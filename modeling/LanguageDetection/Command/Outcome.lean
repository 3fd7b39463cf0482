import LanguageDetection.Log.Entry

namespace LanguageDetection.Command

/-- Why a run fails: what went wrong, and what lies behind it. -/
structure Failure where
  message : String
  causes : List String := []
  deriving Repr, DecidableEq

namespace Failure

def indented (indent : String) (text : String) : String :=
  text.replace "\n" ("\n" ++ indent)

def numbered : Nat → List String → String
  | _, [] => ""
  | n, cause :: rest =>
      "\n    " ++ toString n ++ ": " ++ indented "       " cause ++ numbered (n + 1) rest

def render (failure : Failure) : String :=
  "Error: " ++ failure.message ++ match failure.causes with
    | [] => ""
    | [cause] => "\n\nCaused by:\n    " ++ indented "    " cause
    | causes => "\n\nCaused by:" ++ numbered 0 causes

def inline (failure : Failure) : String :=
  String.intercalate ": " (failure.message :: failure.causes)

end Failure

inductive Event
  | logged (entry : Log.Entry)
  | printed (text : String)
  deriving Repr, DecidableEq

namespace Event

def logged? : Event → Option Log.Entry
  | .logged entry => some entry
  | .printed _ => none

def printed? : Event → Option String
  | .logged _ => none
  | .printed text => some text

end Event

/-- How far a part of a run has come: what it yields, or why it fails, and what has happened by then,
in order. -/
structure Progress (α : Type) where
  result : Except Failure α
  events : List Event := []
  deriving Repr

namespace Progress

def after (events : List Event) (progress : Progress α) : Progress α :=
  { progress with events := events ++ progress.events }

def log (progress : Progress α) : List Log.Entry := progress.events.filterMap Event.logged?

def printed (progress : Progress α) : List String := progress.events.filterMap Event.printed?

def output (progress : Progress α) : String := String.join progress.printed

end Progress

/-- A part of a run, which asks a host in `m`. What follows a failure does not happen. -/
structure Stage (m : Type → Type) (α : Type) where
  run : m (Progress α)

namespace Stage

variable {m : Type → Type} [Monad m] {α β : Type}

def ofProgress (progress : Progress α) : Stage m α := ⟨pure progress⟩

def bind (stage : Stage m α) (next : α → Stage m β) : Stage m β where
  run := do
    let first ← stage.run
    match first.result with
    | .error failure => return { result := .error failure, events := first.events }
    | .ok value => return (← (next value).run).after first.events

instance : Monad (Stage m) where
  pure value := ofProgress { result := .ok value }
  bind := bind

def ask (question : m α) : Stage m α where
  run := do return { result := .ok (← question) }

def ofExcept (result : Except Failure α) : Stage m α := ofProgress { result }

def fail (message : String) : Stage m α := ofExcept (.error { message })

def log (entries : List Log.Entry) : Stage m Unit :=
  ofProgress { result := .ok (), events := entries.map .logged }

def print (line : String) : Stage m Unit :=
  ofProgress { result := .ok (), events := [.printed (line ++ "\n")] }

def printAll (lines : List String) : Stage m Unit := lines.forM print

end Stage

structure Outcome where
  exitCode : Nat
  output : String
  /-- What is reported besides the output and the log. -/
  report : String
  log : List Log.Entry
  deriving Repr, DecidableEq

end LanguageDetection.Command
