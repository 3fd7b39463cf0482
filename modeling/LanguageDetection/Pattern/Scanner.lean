import LanguageDetection.Pattern.Fault
import LanguageDetection.Text.Blank

/-!
Moving through the text of a pattern. In verbose mode white space and comments between the parts of
a pattern are skipped.
-/

namespace LanguageDetection.Pattern

open LanguageDetection.Text

structure Scanner where
  rest : List Char
  position : Position
  isVerbose : Bool
  names : List (String × Span)
  deriving Repr

def Scanner.ofText (chars : List Char) : Scanner :=
  ⟨chars, .start, false, []⟩

abbrev Scan := StateT Scanner (Except Fault)

/-- Skips white space and comments. A comment runs from a number sign to the end of its line. -/
def skipBlank (inComment : Bool) (position : Position) : List Char → List Char × Position
  | [] => ([], position)
  | c :: rest =>
      if inComment then skipBlank (c != '\n') (position.after c) rest
      else if isBlank c then skipBlank false (position.after c) rest
      else if c == '#' then skipBlank true (position.after c) rest
      else (c :: rest, position)

namespace Scan

def fail (kind : FaultKind) (span : Span) : Scan α :=
  throw { kind, span }

def position : Scan Position := do
  return (← get).position

def peek? : Scan (Option Char) := do
  return (← get).rest.head?

def isEnd : Scan Bool := do
  return (← get).rest.isEmpty

def here : Scan Span := do
  return .at (← position)

def charSpan : Scan Span := do
  let s ← get
  match s.rest with
  | [] => return .at s.position
  | c :: _ => return ⟨s.position, s.position.after c⟩

def bump : Scan Bool := do
  let s ← get
  match s.rest with
  | [] => return false
  | c :: rest =>
      set { s with rest, position := s.position.after c }
      return !rest.isEmpty

def bumpSpace : Scan Unit := do
  let s ← get
  if s.isVerbose then
    let (rest, position) := skipBlank false s.position s.rest
    set { s with rest, position }

def bumpAll : Scan Bool := do
  if ← bump then
    bumpSpace
    return !(← isEnd)
  else return false

def bumpIf (chars : List Char) : Scan Bool := do
  let s ← get
  if chars.isPrefixOf s.rest then
    let position := chars.foldl Position.after s.position
    set { s with rest := s.rest.drop chars.length, position }
    return true
  else return false

def setVerbose (isVerbose : Bool) : Scan Unit :=
  modify fun s => { s with isVerbose }

/-- Moves past the longest run of characters that satisfy a test, skipping what verbose mode ignores
after each, and returns it. -/
def takeSpaced (test : Char → Bool) : Scan (List Char) := do
  let s ← get
  let (taken, rest, position) := go s.isVerbose (s.rest.length + 1) s.rest s.position
  set { s with rest, position }
  return taken
where
  go (isVerbose : Bool) : Nat → List Char → Position → List Char × List Char × Position
    | 0, rest, position => ([], rest, position)
    | _, [], position => ([], [], position)
    | fuel + 1, c :: rest, position =>
        if test c then
          let (rest, position) :=
            if isVerbose then skipBlank false (position.after c) rest
            else (rest, position.after c)
          let (taken, rest, position) := go isVerbose fuel rest position
          (c :: taken, rest, position)
        else ([], c :: rest, position)

/-- The character after the next one, past what verbose mode ignores. A comment counts as skipped
only up to its first character that is not white space. -/
def peekSpace? : Scan (Option Char) := do
  let s ← get
  match s.rest with
  | [] => return none
  | _ :: rest =>
      if s.isVerbose then return (skipped false rest).orElse fun _ => rest.head?
      else return rest.head?
where
  skipped (inComment : Bool) : List Char → Option Char
    | [] => none
    | c :: rest =>
        if isBlank c then skipped inComment rest
        else if !inComment && c == '#' then skipped true rest
        else some c

end Scan

end LanguageDetection.Pattern
