import LanguageDetection.Unicode.Intervals
import LanguageDetection.Unicode.Table.Folding

namespace LanguageDetection.Unicode

def foldingSets : List (List Nat) :=
  (Table.foldingSets.splitOn ";").map Intervals.numbersOf

/-- A set together with every character that folds to the same as one of its members. -/
def foldClosure (set : Intervals) : Intervals :=
  Intervals.canonical (set ++ foldingSets.flatMap fun members =>
    if members.any set.contains then members.map fun n => ⟨n, n⟩ else [])

end LanguageDetection.Unicode
