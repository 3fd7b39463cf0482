import LanguageDetection.Log.Entry
import LanguageDetection.Text.Split
import LanguageDetection.Unicode.WordChar

/-!
Log filters: directives that say down to which level entries are shown, each for the targets that
start with a text. Of several that apply the one with the longest text decides.
-/

namespace LanguageDetection.Log

open LanguageDetection.Text
open LanguageDetection.Unicode

structure Directive where
  /-- The start of the targets it is for; all of them if there is none. -/
  target : Option String
  rank : Nat
  deriving Repr, DecidableEq

namespace Directive

def rankOf? (word : String) : Option Nat :=
  match String.ofList (word.toList.map Char.toLower) with
  | "off" => some 0
  | "error" => some 1
  | "warn" => some 2
  | "info" => some 3
  | "debug" => some 4
  | "trace" => some 5
  | _ => match word.toList with
    | [c] => if '0' ≤ c && c ≤ '5' then some (c.toNat - 48) else none
    | _ => none

def isTargetChar (c : Char) : Bool :=
  isWordChar c || c == ':' || c == '-'

def isTarget (chars : List Char) : Bool :=
  !chars.isEmpty && chars.all isTargetChar

/-- Whether text is a span in brackets. Nothing is logged inside spans. -/
def isSpan (chars : List Char) : Bool :=
  match chars with
  | '[' :: rest => rest.idxOf ']' + 1 == rest.length
  | _ => false

inductive Reading
  | directive (directive : Directive)
  | spans
  | invalid
  deriving Repr, DecidableEq

def read (text : String) : Reading :=
  match rankOf? text with
  | some rank => .directive ⟨none, rank⟩
  | none =>
      let chars := text.toList
      let subject := chars.takeWhile (· != '=')
      let level? := match chars.drop subject.length with
        | [] => some 5
        | ['='] => some 5
        | _ :: level => rankOf? (String.ofList level)
      match level? with
      | none => .invalid
      | some rank =>
          if isTarget subject then .directive ⟨some (String.ofList subject), rank⟩
          else
            let target := subject.takeWhile (· != '[')
            let span := subject.drop target.length
            if (target.isEmpty || isTarget target) && isSpan span then .spans else .invalid

def covers (directive : Directive) (target : String) : Bool :=
  match directive.target with
  | none => true
  | some start => start.toList.isPrefixOf target.toList

def weight (directive : Directive) : Nat :=
  match directive.target with
  | none => 0
  | some start => start.utf8ByteSize + 1

end Directive

abbrev Filter := List Directive

namespace Filter

/-- Adds a directive, in the place of one for the same targets. -/
def add (filter : Filter) (directive : Directive) : Filter :=
  filter.filter (·.target != directive.target) ++ [directive]

def ofText (text : String) : Filter :=
  ((split ',' text).filter fun piece => !piece.isEmpty).foldl (fun filter piece =>
    match Directive.read piece with
    | .directive directive => filter.add directive
    | _ => filter) []

def invalidPieces (text : String) : List String :=
  (split ',' text).filter fun piece => !piece.isEmpty && Directive.read piece == .invalid

def stronger (best : Option Directive) (directive : Directive) : Option Directive :=
  match best with
  | none => some directive
  | some known => if known.weight < directive.weight then some directive else some known

def shows (filter : Filter) (entry : Entry) : Bool :=
  match (filter.filter (·.covers entry.target)).foldl stronger none with
  | some directive => entry.level.rank ≤ directive.rank
  | none => false

end Filter

end LanguageDetection.Log
