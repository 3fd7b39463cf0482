import LanguageDetection.Pattern.Expression
import LanguageDetection.Pattern.Fault

namespace LanguageDetection.Pattern

def nestLimit : Nat := 250

private def deeper (depth : Nat) (span : Span) : Except Fault Nat :=
  if depth < nestLimit then .ok (depth + 1)
  else .error { kind := .nestLimitExceeded nestLimit, span }

mutual
def ClassSet.checkDepth (depth : Nat) : ClassSet → Except Fault Unit
  | .bracketed span _ body => do
      let depth ← deeper depth span
      body.checkDepth depth
  | .union span items => do
      let depth ← deeper depth span
      checkItems depth items
  | .combined span _ left right => do
      let depth ← deeper depth span
      left.checkDepth depth
      right.checkDepth depth
  | _ => .ok ()

def ClassSet.checkItems (depth : Nat) : List ClassSet → Except Fault Unit
  | [] => .ok ()
  | item :: rest => do
      item.checkDepth depth
      checkItems depth rest
end

mutual
def Expression.checkDepth (depth : Nat) : Expression → Except Fault Unit
  | .bracketed span _ body => do
      let depth ← deeper depth span
      body.checkDepth depth
  | .repetition span _ _ body => do
      let depth ← deeper depth span
      body.checkDepth depth
  | .group span _ body => do
      let depth ← deeper depth span
      body.checkDepth depth
  | .alternation span branches => do
      let depth ← deeper depth span
      checkAll depth branches
  | .concat span parts => do
      let depth ← deeper depth span
      checkAll depth parts
  | _ => .ok ()

def Expression.checkAll (depth : Nat) : List Expression → Except Fault Unit
  | [] => .ok ()
  | e :: rest => do
      e.checkDepth depth
      checkAll depth rest
end

end LanguageDetection.Pattern
