import LanguageDetection.Pattern.Resolved

/-!
The shape of a pattern: what is left of it when neighbouring literals are joined, empty parts
dropped, alternatives that are single characters made one class, and what all alternatives start
with written once. The size of a pattern is that of its shape.
-/

namespace LanguageDetection.Pattern

open LanguageDetection.Unicode LanguageDetection.Text

/-- A shape in normal form keeps `cat` and `alt` nested to the right, without a `cat`, an `alt` or
the empty string as the left part of its own kind. -/
inductive Shape
  | empty
  | literal (bytes : List UInt8)
  | byteClass (set : Intervals)
  | charClass (set : Intervals)
  | anchor (anchor : Anchor)
  | captured (body : Shape)
  | repeated (body : Shape) (least : Nat) (most : Option Nat)
  | cat (left right : Shape)
  | alt (left right : Shape)
  deriving Repr

namespace Shape

def ofByteSet (set : Intervals) : Shape :=
  match set with
  | [⟨first, last⟩] =>
      if first == last then .literal [UInt8.ofNat first] else .byteClass [⟨first, last⟩]
  | set => .byteClass set

def ofCharSet (set : Intervals) : Shape :=
  match set with
  | [⟨first, last⟩] =>
      if first == last then .literal (String.utf8EncodeChar (Char.ofNat first))
      else .charClass [⟨first, last⟩]
  | set => .charClass set

def andThen : Shape → Shape → Shape
  | .empty, right => right
  | .cat first rest, right => first.andThen (rest.andThen right)
  | .literal bytes, .literal more => .literal (bytes ++ more)
  | .literal bytes, .cat (.literal more) rest => .cat (.literal (bytes ++ more)) rest
  | left, .empty => left
  | left, right => .cat left right

def parts : Shape → List Shape
  | .cat left right => left :: right.parts
  | s => [s]

def ofParts (parts : List Shape) : Shape :=
  parts.foldr andThen .empty

def shortest? : Shape → Option Nat
  | .empty => some 0
  | .literal bytes => some bytes.length
  | .byteClass set => if set.isEmpty then none else some 1
  | .charClass set => set.head?.map fun i => (Char.ofNat i.first).utf8Size
  | .anchor _ => some 0
  | .captured body => body.shortest?
  | .repeated body least _ => body.shortest?.map (· * least)
  | .cat left right => do return (← left.shortest?) + (← right.shortest?)
  | .alt left right => do return min (← left.shortest?) (← right.shortest?)

def isBlank : Shape → Bool
  | .empty => true
  | .literal bytes => bytes.isEmpty
  | .byteClass _ => false
  | .charClass _ => false
  | .anchor _ => true
  | .captured body => body.isBlank
  | .repeated body _ most => most.isSome && (most == some 0 || body.isBlank)
  | .cat left right => left.isBlank && right.isBlank
  | .alt left right => left.isBlank && right.isBlank

/-- Copies of a shape. One empty match is as good as many. -/
def copies (body : Shape) (least : Nat) (most : Option Nat) : Shape :=
  let (least, most) :=
    if body.isBlank then (min least 1, some (min (most.getD 1) 1)) else (least, most)
  if most == some 0 then .empty
  else if least == 1 && most == some 1 then body
  else .repeated body least most

def branches : Shape → List Shape
  | .alt left right => left :: right.branches
  | s => [s]

def ofBranches : List Shape → Shape
  | [] => .byteClass []
  | [s] => s
  | s :: rest => .alt s (ofBranches rest)

def char? : Shape → Option Char
  | .literal bytes =>
      (Utf8.first? bytes).bind fun c => if c.utf8Size = bytes.length then some c else none
  | _ => none

def byte? : Shape → Option UInt8
  | .literal [byte] => some byte
  | _ => none

def charSet? : Shape → Option Intervals
  | .charClass set => some set
  | .byteClass set => if set.all (·.last < 0x80) then some set else none
  | _ => none

def byteSet? : Shape → Option Intervals
  | .byteClass set => some set
  | .charClass set => if set.all (·.last < 0x80) then some set else none
  | _ => none

private def single (n : Nat) : Interval := ⟨n, n⟩

/-- The one class that alternatives amount to, if they are all single characters, or all single
bytes, or all classes of one sort. -/
def class? (branches : List Shape) : Option Shape :=
  (branches.mapM char?).map (fun chars =>
      ofCharSet (Intervals.canonical (chars.map fun c => single c.toNat)))
    <|> (branches.mapM byte?).map (fun bytes =>
      ofByteSet (Intervals.canonical (bytes.map fun b => single b.toNat)))
    <|> (branches.mapM charSet?).map (fun sets => ofCharSet (Intervals.canonical sets.flatten))
    <|> (branches.mapM byteSet?).map (fun sets => ofByteSet (Intervals.canonical sets.flatten))

/-- Whether two shapes are written alike. No group is written like another, since each has a number
of its own. -/
def isLike : Shape → Shape → Bool
  | .empty, .empty => true
  | .literal bytes, .literal more => bytes == more
  | .byteClass set, .byteClass other => set == other
  | .charClass set, .charClass other => set == other
  | .anchor a, .anchor b => a == b
  | .repeated body least most, .repeated other least' most' =>
      least == least' && most == most' && body.isLike other
  | .cat left right, .cat left' right' => left.isLike left' && right.isLike right'
  | .alt left right, .alt left' right' => left.isLike left' && right.isLike right'
  | _, _ => false

def sharedLength : List Shape → List Shape → Nat
  | s :: rest, t :: others => if s.isLike t then sharedLength rest others + 1 else 0
  | _, _ => 0

def isCat : Shape → Bool
  | .cat _ _ => true
  | _ => false

/-- One of several shapes. What concatenations start with alike stands before the alternation of
what follows it; `depth` bounds how often that is repeated. -/
def choice : Nat → List Shape → Shape
  | _, [] => .byteClass []
  | _, [s] => s
  | 0, branches => (class? branches).getD (ofBranches branches)
  | depth + 1, branches =>
      (class? branches).getD <|
        match branches.map parts with
        | [] => ofBranches branches
        | first :: rest =>
            let shared := rest.foldl (fun n other => min n (sharedLength first other)) first.length
            if branches.all isCat && 0 < shared then
              (ofParts (first.take shared)).andThen
                (choice depth ((first :: rest).map fun parts => ofParts (parts.drop shared)))
            else ofBranches branches

/-- The shape of a pattern, and the shapes of the alternatives that it offers. -/
def reading : Resolved → Shape × List Shape
  | .empty => alone .empty
  | .byte b => alone (.literal [b])
  | .char c => alone (.literal (String.utf8EncodeChar c))
  | .byteClass set => alone (ofByteSet set)
  | .charClass set => alone (ofCharSet set)
  | .anchor a => alone (.anchor a)
  | .captured body => alone (.captured (reading body).1)
  | .repeated body least most => alone (copies (reading body).1 least most)
  | .cat left right => alone ((reading left).1.andThen (reading right).1)
  | .alt left right =>
      let branches := (reading left).1.branches ++ (reading right).2
      (choice ((branches.head?.map (·.parts.length)).getD 0) branches, branches)
where
  alone (s : Shape) : Shape × List Shape := (s, s.branches)

def ofResolved (r : Resolved) : Shape :=
  (reading r).1

end Shape

end LanguageDetection.Pattern
