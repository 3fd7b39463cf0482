namespace LanguageDetection.Pattern

/-- A place: how many characters stand before it, and its line and column counted from one. -/
structure Position where
  offset : Nat
  line : Nat
  column : Nat
  deriving Repr, DecidableEq

def Position.start : Position := ⟨0, 1, 1⟩

def Position.after (p : Position) (c : Char) : Position :=
  if c == '\n' then ⟨p.offset + 1, p.line + 1, 1⟩ else ⟨p.offset + 1, p.line, p.column + 1⟩

structure Span where
  start : Position
  stop : Position
  deriving Repr, DecidableEq

def Span.at (p : Position) : Span := ⟨p, p⟩

def Span.isOneLine (s : Span) : Bool := s.start.line == s.stop.line

def Span.le (a b : Span) : Bool :=
  a.start.offset < b.start.offset
    || (a.start.offset == b.start.offset && a.stop.offset ≤ b.stop.offset)

end LanguageDetection.Pattern
