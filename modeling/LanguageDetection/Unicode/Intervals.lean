/-!
Sets of numbers as lists of intervals. The operations return canonical lists: in ascending order,
with a gap between any two intervals.
-/

namespace LanguageDetection.Unicode

structure Interval where
  first : Nat
  last : Nat
  deriving Repr, DecidableEq

abbrev Intervals := List Interval

namespace Intervals

def contains (set : Intervals) (n : Nat) : Bool :=
  set.any fun i => i.first ≤ n && n ≤ i.last

def join : Intervals → Intervals
  | [] => []
  | i :: rest => go i rest
where
  go (current : Interval) : Intervals → Intervals
    | [] => [current]
    | i :: rest =>
        if i.first ≤ current.last + 1 then go ⟨current.first, max current.last i.last⟩ rest
        else current :: go i rest

def place (i : Interval) : Intervals → Intervals
  | [] => [i]
  | j :: rest => if i.first ≤ j.first then i :: j :: rest else j :: place i rest

def canonical (set : Intervals) : Intervals :=
  join (set.foldr place [])

def union (a b : Intervals) : Intervals :=
  canonical (a ++ b)

def complementFrom (low high : Nat) : Intervals → Intervals
  | [] => if low ≤ high then [⟨low, high⟩] else []
  | i :: rest =>
      if low < i.first then
        if high < i.first then if low ≤ high then [⟨low, high⟩] else []
        else ⟨low, i.first - 1⟩ :: complementFrom (i.last + 1) high rest
      else complementFrom (max low (i.last + 1)) high rest

def complement (high : Nat) (set : Intervals) : Intervals :=
  complementFrom 0 high (canonical set)

def intersection (a b : Intervals) : Intervals :=
  canonical (a.flatMap fun i => b.filterMap fun j =>
    let first := max i.first j.first
    let last := min i.last j.last
    if first ≤ last then some ⟨first, last⟩ else none)

def difference (high : Nat) (a b : Intervals) : Intervals :=
  intersection a (complement high b)

def symmetricDifference (high : Nat) (a b : Intervals) : Intervals :=
  difference high (union a b) (intersection a b)

/-- Whether a number lies in a canonical array of intervals, by bisection among the positions from
`low` and below `high`. -/
def bisect (set : Array Interval) (n : Nat) : Nat → Nat → Nat → Bool
  | 0, _, _ => false
  | steps + 1, low, high =>
      if low < high then
        let middle := (low + high) / 2
        match set[middle]? with
        | none => false
        | some i =>
            if n < i.first then bisect set n steps low middle
            else if i.last < n then bisect set n steps (middle + 1) high
            else true
      else false

def numbersOf (text : String) : List Nat :=
  go none text.toList
where
  go : Option Nat → List Char → List Nat
    | known, [] => known.toList
    | known, c :: rest =>
        if c.isDigit then go (some (known.getD 0 * 10 + (c.toNat - 48))) rest
        else known.toList ++ go none rest

/-- The intervals of a table text: for each interval how far its first number lies from the end of
the one before (from zero for the first), and how far its last number lies from its first. -/
def ofTable (text : String) : Intervals :=
  go 0 (numbersOf text)
where
  go (previous : Nat) : List Nat → Intervals
    | skip :: extent :: rest =>
        let first := previous + skip
        let last := first + extent
        ⟨first, last⟩ :: go last rest
    | _ => []

end Intervals

structure Row where
  names : List String
  table : String
  deriving Repr

def Row.find? (rows : List Row) (name : String) : Option Intervals :=
  (rows.find? (·.names.contains name)).map (Intervals.ofTable ·.table)

end LanguageDetection.Unicode
