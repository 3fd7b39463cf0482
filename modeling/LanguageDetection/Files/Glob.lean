import LanguageDetection.Pattern.Regex

/-!
Globs: the patterns for paths in ignore files. A star or a question mark stands for anything but a
slash; two stars between slashes stand for any number of directories.
-/

namespace LanguageDetection.Files

open LanguageDetection.Pattern
open LanguageDetection.Text

structure CharClass where
  isNegated : Bool
  ranges : List (Char × Char)
  deriving Repr, DecidableEq

inductive Glob
  | char (c : Char)
  | any
  | star
  | charClass (set : CharClass)
  /-- Two stars at the start: the directories above. -/
  | leading
  /-- Two stars at the end: everything below. -/
  | trailing
  /-- Two stars in between. -/
  | inner
  | choice (branches : List (List Glob))
  deriving Repr, Inhabited

namespace Glob

def bytesOf (c : Char) : Regex :=
  (Utf8.encode (String.singleton c)).foldr (fun byte rest => .cat (.byte [⟨byte, byte⟩]) rest)
    .empty

def slash : Regex := .byte [⟨0x2F, 0x2F⟩]

def notSlash : Regex := .byte [⟨0x00, 0x2E⟩, ⟨0x30, 0xFF⟩]

def anything : Regex := .repeated (.byte [⟨0x00, 0xFF⟩]) 0 none

/-- The bytes that a class stands for. Of characters longer than one byte each byte counts. -/
def CharClass.bytes (set : CharClass) : ByteSet :=
  let ranges := set.ranges.flatMap fun (first, last) =>
    if first.toNat < 0x80 && last.toNat < 0x80 then
      [ByteRange.mk (UInt8.ofNat first.toNat) (UInt8.ofNat last.toNat)]
    else
      (Utf8.encode (String.ofList [first, last])).map fun byte => ByteRange.mk byte byte
  if set.isNegated then
    (List.range 256).filterMap fun n =>
      let byte := UInt8.ofNat n
      if ByteSet.contains ranges byte then none else some ⟨byte, byte⟩
  else ranges

mutual
def toRegex : Glob → Regex
  | .char c => bytesOf c
  | .any => notSlash
  | .star => .repeated notSlash 0 none
  | .charClass set => .byte (CharClass.bytes set)
  | .leading => .alt (.repeated slash 0 (some 1)) (.cat anything slash)
  | .trailing => .cat slash anything
  | .inner => .alt slash (.cat slash (.cat anything slash))
  | .choice branches => branchesRegex branches

def sequenceRegex : List Glob → Regex
  | [] => .empty
  | glob :: rest => .cat glob.toRegex (sequenceRegex rest)

def branchesRegex : List (List Glob) → Regex
  | [] => .empty
  | [branch] => sequenceRegex branch
  | branch :: rest =>
      if branch.isEmpty then branchesRegex rest
      else if rest.all List.isEmpty then sequenceRegex branch
      else .alt (sequenceRegex branch) (branchesRegex rest)
end

def searcher (globs : List Glob) : Searcher :=
  .ofRegex (.cat (.anchor .textStart) (.cat (sequenceRegex globs) (.anchor .textEnd)))

inductive GlobError
  | unclosedClass
  | invalidRange
  | unopenedChoice
  | unclosedChoice
  | danglingEscape
  deriving Repr, DecidableEq

def closeRange (ranges : List (Char × Char)) (last : Char) :
    Except GlobError (List (Char × Char)) :=
  match ranges with
  | [] => .ok [(last, last)]
  | (first, _) :: rest => if last < first then .error .invalidRange else .ok ((first, last) :: rest)

def readClass (isFirst inRange : Bool) (ranges : List (Char × Char)) :
    List Char → Except GlobError (List (Char × Char) × List Char)
  | [] => .error .unclosedClass
  | c :: rest =>
      if c == ']' && !isFirst then
        .ok ((if inRange then ('-', '-') :: ranges else ranges), rest)
      else if c == '-' && !isFirst && !inRange then readClass false true ranges rest
      else if inRange then do
        let ranges ← closeRange ranges c
        readClass false false ranges rest
      else readClass false false ((c, c) :: ranges) rest

/-- What has been read. Each open choice has its finished branches, last first, and what was read
before it; the branch that is being read is `current`, last first. -/
structure Draft where
  current : List Glob := []
  outer : List (List Glob × List (List Glob)) := []
  previous : Option Char := none
  deriving Inhabited

def Draft.push (draft : Draft) (glob : Glob) : Draft :=
  { draft with current := glob :: draft.current }

def Draft.isNested (draft : Draft) : Bool := !draft.outer.isEmpty

/-- Two stars, followed by `rest`. Between slashes they take the slash before and the one after. -/
def Draft.twoStars (draft : Draft) (rest : List Char) : Draft × List Char :=
  let plain := ((draft.push .star).push .star, rest)
  let afterSlash := draft.previous == some '/'
  let atBranchStart :=
    draft.isNested && (draft.previous == some ',' || draft.previous == some '\x7b')
  if draft.current.isEmpty then
    match rest with
    | [] => (draft.push .leading, [])
    | '/' :: rest => (draft.push .leading, rest)
    | _ => plain
  else if !afterSlash && !atBranchStart then plain
  else
    let replace (glob : Glob) : Draft :=
      match draft.current with
      | .leading :: _ => draft
      | .trailing :: _ => draft
      | _ :: before => { draft with current := glob :: before }
      | [] => draft.push glob
    match rest with
    | [] => (replace .trailing, [])
    | '/' :: rest => (replace .inner, rest)
    | c :: _ =>
        if draft.isNested && (c == ',' || c == '\x7d') then (replace .trailing, rest) else plain

def readFrom : Nat → Draft → List Char → Except GlobError Draft
  | 0, draft, _ => .ok draft
  | _ + 1, draft, [] => .ok draft
  | fuel + 1, draft, c :: rest =>
      let next := { draft with previous := some c }
      match c with
      | '?' => readFrom fuel (next.push .any) rest
      | '*' =>
          match rest with
          | '*' :: rest =>
              let (draft, after) := draft.twoStars rest
              let previous := if after.length < rest.length then rest.head? else some '*'
              readFrom fuel { draft with previous } after
          | _ => readFrom fuel (next.push .star) rest
      | '[' =>
          let (isNegated, rest) := match rest with
            | '!' :: rest => (true, rest)
            | '^' :: rest => (true, rest)
            | _ => (false, rest)
          do
            let (ranges, rest) ← readClass true false [] rest
            let next := next.push (.charClass ⟨isNegated, ranges.reverse⟩)
            readFrom fuel { next with previous := some ']' } rest
      | '\x7b' =>
          let outer := (draft.current, []) :: draft.outer
          readFrom fuel { next with current := [], outer } rest
      | '\x7d' =>
          match draft.outer with
          | [] => .error .unopenedChoice
          | (before, branches) :: outer =>
              let branches := (draft.current.reverse :: branches).reverse
              readFrom fuel { next with current := .choice branches :: before, outer } rest
      | ',' =>
          match draft.outer with
          | [] => readFrom fuel (next.push (.char ',')) rest
          | (before, branches) :: outer =>
              readFrom fuel
                { next with
                  current := []
                  outer := (before, draft.current.reverse :: branches) :: outer } rest
      | '\\' =>
          match rest with
          | [] => .error .danglingEscape
          | c :: rest => readFrom fuel { next.push (.char c) with previous := some c } rest
      | c => readFrom fuel (next.push (.char c)) rest

def ofText (text : String) : Except GlobError (List Glob) := do
  let chars := text.toList
  let draft ← readFrom (chars.length + 1) {} chars
  if draft.isNested then .error .unclosedChoice else .ok draft.current.reverse

end Glob

end LanguageDetection.Files
