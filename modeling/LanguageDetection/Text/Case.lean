import LanguageDetection.Unicode.Table.CaseRuns
import LanguageDetection.Unicode.WordChar

/-!
Lower case for whole texts. All of it is a map of characters, except that a capital sigma depends on
its neighbours: it becomes a final sigma at the end of a word.
-/

namespace LanguageDetection.Text

open LanguageDetection.Unicode

def caseRun? (n : Nat) : Option Table.CaseRun :=
  Table.caseRuns.find? fun run =>
    run.first ≤ n && n ≤ run.last && (n - run.first) % run.step == 0

def lowerChar (c : Char) : List Char :=
  if c.toNat < 0x80 then [c.toLower]
  else if c == 'İ' then ['i', '\u0307']
  else match caseRun? c.toNat with
    | some run => [Char.ofNat (c.toNat + run.shift).toNat]
    | none => [c]

/-- Whether the first character that case conditions do not ignore is a letter with case. -/
def meetsCased (chars : List Char) : Bool :=
  match chars.dropWhile isCaseIgnorable with
  | [] => false
  | c :: _ => isCased c

/-- Lower case of the characters after those of `before`, which are given nearest first. -/
def lowerAfter (before : List Char) : List Char → List Char
  | [] => []
  | c :: rest =>
      let lowered :=
        if c == 'Σ' then
          if meetsCased before && !meetsCased rest then ['ς'] else ['σ']
        else lowerChar c
      lowered ++ lowerAfter (c :: before) rest

def lower (text : String) : String :=
  String.ofList (lowerAfter [] text.toList)

end LanguageDetection.Text
