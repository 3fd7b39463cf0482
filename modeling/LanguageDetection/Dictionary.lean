/-!
Dictionaries: text keys in ascending order, each with a value. Keys are ordered by code points,
which is also the order of their bytes in UTF-8.
-/

namespace LanguageDetection

abbrev Dictionary (α : Type) := List (String × α)

namespace Dictionary

def insert (key : String) (value : α) : Dictionary α → Dictionary α
  | [] => [(key, value)]
  | (k, v) :: rest =>
      if key < k then (key, value) :: (k, v) :: rest
      else if key = k then (key, value) :: rest
      else (k, v) :: insert key value rest

def find? (dictionary : Dictionary α) (key : String) : Option α :=
  dictionary.lookup key

/-- The dictionary of a list of pairs, of which later ones win. -/
def ofList (pairs : List (String × α)) : Dictionary α :=
  pairs.foldl (fun dictionary pair => dictionary.insert pair.1 pair.2) []

end Dictionary

end LanguageDetection
