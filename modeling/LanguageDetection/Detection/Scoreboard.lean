import LanguageDetection.Signature.Registry

namespace LanguageDetection

open LanguageDetection.Text

structure Score where
  language : String
  score : UInt32
  /-- The patterns that occur, in the order of the rules. -/
  matched : List String
  deriving Repr, DecidableEq

structure Scoreboard where
  entries : List Score
  deriving Repr, DecidableEq

def Language.score (language : Language) (bytes : List UInt8) : Score :=
  let matching := language.rules.filter (·.matchesBytes bytes)
  ⟨language.id, weightOf matching, matching.map (·.pattern)⟩

namespace Scoreboard

def tally (registry : Registry) (text : String) : Scoreboard :=
  let bytes := Utf8.encode text
  ⟨registry.languages.map (·.score bytes)⟩

def scoreOf? (board : Scoreboard) (language : String) : Option UInt32 :=
  (board.entries.find? (·.language == language)).map (·.score)

def maxScore (board : Scoreboard) : UInt32 :=
  board.entries.foldl (fun best entry => max best entry.score) 0

/-- The better of two, of which the first may be missing and wins a tie. -/
def better (best : Option Score) (entry : Score) : Option Score :=
  if (best.map (·.score)).getD 0 < entry.score then some entry else best

/-- The first of the languages with the highest score, unless that is zero. -/
def leader? (board : Scoreboard) : Option Score :=
  board.entries.foldl better none

def scoring (board : Scoreboard) : List Score :=
  board.entries.filter fun entry => 0 < entry.score

end Scoreboard

end LanguageDetection
