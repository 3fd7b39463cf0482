import LanguageDetection.Toml.Value

namespace LanguageDetection.Toml

open LanguageDetection.Text

structure Entry where
  path : List String
  name : String
  value : Document
  deriving Repr

structure Header where
  isItem : Bool
  path : List String
  name : String
  deriving Repr, DecidableEq

inductive Line
  | entry (entry : Entry)
  | header (header : Header)
  deriving Repr

def entry : Take Entry := do
  let (path, name) := splitKey (← key)
  Take.char '='
  skipSpace
  let value ← topValue
  restOfLine
  return { path, name, value }

def header : Take Header := do
  Take.char '['
  let isItem := (← Take.attempt (Take.char '[')).isSome
  let (path, name) := splitKey (← key)
  Take.char ']'
  if isItem then Take.char ']'
  restOfLine
  return { isItem, path, name }

def lines : Nat → Take (List Line)
  | 0 => Take.fail
  | fuel + 1 => do
      skipBlank
      match ← Take.peek? with
      | none => return []
      | some c =>
          let line ← if c == '[' then Line.header <$> header else Line.entry <$> entry
          return line :: (← lines fuel)

/-- The entries before the first header, and each header with the entries under it. -/
def sections : List Line → List Entry × List (Header × List Entry)
  | [] => ([], [])
  | .entry entry :: rest =>
      let (entries, later) := sections rest
      (entry :: entries, later)
  | .header header :: rest =>
      let (entries, later) := sections rest
      ([], (header, entries) :: later)

def addEntries (fields : Fields) (entries : List Entry) : Option Fields :=
  entries.foldlM (fun fields e => addValue e.path e.name e.value .header fields) fields

/-- Opens the table of a header, which must be new or only implied so far, and adds entries to it.
-/
def openTable (name : String) (entries : List Entry) (fields : Fields) :
    Option Fields :=
  match fields.lookup name with
  | none => do
      let table ← addEntries [] entries
      return setField name (.table .header table) fields
  | some (.table .implied known) => do
      let table ← addEntries known entries
      return setField name (.table .header table) fields
  | some _ => none

def openItem (name : String) (entries : List Entry) (fields : Fields) :
    Option Fields := do
  let table ← addEntries [] entries
  match fields.lookup name with
  | none => return setField name (.tables [table]) fields
  | some (.tables items) => return setField name (.tables (items ++ [table])) fields
  | some _ => none

def addSection (fields : Fields) : Header × List Entry → Option Fields
  | (header, entries) =>
      changeAt false header.path .header
        (fun _ fields =>
          if header.isItem then openItem header.name entries fields
          else openTable header.name entries fields)
        fields

def fieldsOfLines (lines : List Line) : Option Fields := do
  let (entries, later) := sections lines
  later.foldlM addSection (← addEntries [] entries)

/-- A mark at the start that says how the text is encoded is no part of it. -/
def dropMark : List Char → List Char
  | '\uFEFF' :: rest => rest
  | chars => chars

def parse? (text : String) : Option Document := do
  let (lines, _) ← Take.fueled lines (dropMark text.toList)
  let fields ← fieldsOfLines lines
  return (Node.table .header fields).toDocument

end LanguageDetection.Toml
