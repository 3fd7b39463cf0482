import LanguageDetection.Pattern.Shape

/-!
How much memory a pattern takes as an automaton. Counted repetition stands for as many copies, so a
short pattern can be too big.
-/

namespace LanguageDetection.Pattern

open LanguageDetection.Unicode

/-- The number of bytes that the automaton of a pattern may take. -/
def weightLimit : Nat := 10485760

namespace Weight

def state : Nat := 32

def edge : Nat := 8

def branch : Nat := 4

/-- What a whole automaton has besides the states of its pattern: the search for a first place to
match, the bounds of the match, and its end. -/
def frame : Nat := 8 * state

def reader (count : Nat) : Nat :=
  if count == 1 then state else state + edge * count

end Weight

open Weight

private def Regex.strings : Regex → List (List ByteSet)
  | .alt left right => left.strings ++ right.strings
  | .cat left right => left.strings.flatMap fun a => right.strings.map fun b => a ++ b
  | .byte set => if set.isEmpty then [] else [[set]]
  | _ => []

/-- The distinct non-empty tails that start each string, with what is known of the others. -/
private def addTails (known : List (List ByteSet)) : List ByteSet → List (List ByteSet)
  | [] => known
  | set :: rest =>
      let tail := set :: rest
      if known.contains tail then known else addTails (tail :: known) rest

/-- The weight of one character of a set. Characters beyond ASCII share the states of equal tails.
-/
def charClassWeight (set : Intervals) : Nat :=
  if set.all fun i => i.last < 0x80 then 2 * state + edge * set.length
  else
    let strings := (Regex.ofChars set).strings
    let tails := strings.foldl (fun known string => addTails known string.reverse) []
    2 * state + branch * strings.length + state * tails.length

private def chunk : List (List UInt8) → List (List UInt8) × Option (List (List UInt8))
  | [] => ([], none)
  | [] :: rest => ([], some rest)
  | literal :: rest =>
      let (before, after) := chunk rest
      (literal :: before, after)

private def chunks : Nat → List (List UInt8) → List (List (List UInt8))
  | 0, literals => [literals]
  | fuel + 1, literals =>
      match chunk literals with
      | (before, none) => [before]
      | (before, some after) => before :: chunks fuel after

private def byFirst (literals : List (List UInt8)) : List (UInt8 × List (List UInt8)) :=
  literals.foldl (fun known literal =>
    match literal with
    | [] => known
    | byte :: rest =>
        if known.any (·.1 == byte) then
          known.map fun (b, rests) => if b == byte then (b, rests ++ [rest]) else (b, rests)
        else known ++ [(byte, [rest])]) []

private def literalsWeight : Nat → List (List UInt8) → Nat
  | 0, _ => 0
  | fuel + 1, literals =>
      if literals.all (·.isEmpty) then 0
      else
        let chunks := chunks literals.length literals
        let readers := chunks.filter (!·.isEmpty)
        let nodes := readers.map byFirst
        state + branch * (readers.length + chunks.length - 1)
          + (nodes.map fun node => reader node.length).sum
          + (nodes.map fun node =>
              (node.map fun (_, rests) => literalsWeight fuel rests).sum).sum

private def Shape.literals? (branches : List Shape) : Option (List (List UInt8)) :=
  branches.mapM fun
    | .literal bytes => some bytes
    | _ => none

/-- The weight of a shape, alone and as an alternative that follows another. Each copy of a repeated
part weighs as much as the part. A repetition that may stop early has a state to do so at each place.
-/
def Shape.weights : Shape → Nat × Nat
  | .empty => alone state
  | .literal bytes => alone (state * bytes.length)
  | .byteClass set => alone (2 * state + edge * set.length)
  | .charClass set => alone (charClassWeight set)
  | .anchor _ => alone state
  | .captured body => alone (2 * state + body.weights.1)
  | .repeated body 0 (some 1) => alone (body.weights.1 + 2 * state + 2 * branch)
  | .repeated body 0 none =>
      alone (if body.shortest?.getD 0 == 0 then body.weights.1 + 3 * state + 4 * branch
        else body.weights.1 + state + 2 * branch)
  | .repeated body least none => alone (least * body.weights.1 + state + 2 * branch)
  | .repeated body least (some most) =>
      alone (if least == most then most * body.weights.1
        else (if least == 0 then state else 0) + most * body.weights.1 + state
          + (most - least) * (state + 2 * branch))
  | .cat left right => alone (left.weights.1 + right.weights.1)
  | .alt left right =>
      (match literals? (left :: right.branches) with
        | some literals =>
            state + literalsWeight ((literals.map List.length).foldl max 0 + 1) literals
        | none => 2 * state + branch + left.weights.1 + right.weights.2,
      branch + left.weights.1 + right.weights.2)
where
  alone (weight : Nat) : Nat × Nat := (weight, branch + weight)

def Shape.weight (s : Shape) : Nat :=
  s.weights.1

def Resolved.isTooBig (r : Resolved) : Bool :=
  weightLimit < frame + (Shape.ofResolved r).weight

end LanguageDetection.Pattern
