import LanguageDetection.Dictionary
import LanguageDetection.Document

/-!
The tables of a TOML document while it is read. A table may be opened by a header, by a dotted key,
or only as part of a longer name, and these differ in what may be added to it later.
-/

namespace LanguageDetection.Toml

inductive Opening
  /-- By a header, or as the document itself. -/
  | header
  /-- As part of the name in a header. -/
  | implied
  /-- As part of a dotted key. -/
  | dotted
  deriving Repr, DecidableEq

inductive Node
  | value (value : Document)
  | table (opening : Opening) (fields : List (String × Node))
  | tables (items : List (List (String × Node)))
  deriving Repr, Inhabited

abbrev Fields := List (String × Node)

def setField (name : String) (node : Node) : Fields → Fields
  | [] => [(name, node)]
  | (n, old) :: rest => if n == name then (n, node) :: rest else (n, old) :: setField name node rest

/-- Changes the table that a path leads to, opening tables on the way. A dotted key may not lead
into a table that has a header. -/
def changeAt (isDotted : Bool) (path : List String) (opening : Opening)
    (change : Opening → Fields → Option Fields) (fields : Fields) : Option Fields :=
  match path with
  | [] => change opening fields
  | name :: path =>
      match fields.lookup name with
      | none => do
          let opening := if isDotted then .dotted else .implied
          let fields' ← changeAt isDotted path opening change []
          return setField name (.table opening fields') fields
      | some (.value _) => none
      | some (.tables items) =>
          match items.getLast? with
          | none => none
          | some last => do
              let last ← changeAt isDotted path .header change last
              return setField name (.tables (items.dropLast ++ [last])) fields
      | some (.table opening known) =>
          if isDotted && opening == .header then none
          else do
            let known ← changeAt isDotted path opening change known
            return setField name (.table opening known) fields

def addValue (path : List String) (name : String) (value : Document) (opening : Opening)
    (fields : Fields) : Option Fields :=
  changeAt true path opening
    (fun opening fields =>
      if (opening == .dotted) == path.isEmpty then none
      else if (fields.lookup name).isSome then none
      else some (setField name (.value value) fields))
    fields

mutual
def Node.toDocument : Node → Document
  | .value value => value
  | .table _ fields => .object (Dictionary.ofList (fieldDocuments fields))
  | .tables items => .array (itemDocuments items)

def fieldDocuments : Fields → List (String × Document)
  | [] => []
  | (name, node) :: rest => (name, node.toDocument) :: fieldDocuments rest

def itemDocuments : List Fields → List Document
  | [] => []
  | fields :: rest => .object (Dictionary.ofList (fieldDocuments fields)) :: itemDocuments rest
end

end LanguageDetection.Toml
