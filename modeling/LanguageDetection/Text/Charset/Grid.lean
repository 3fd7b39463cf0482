namespace LanguageDetection.Text.Charset

structure Grid where
  width : Nat
  cells : Array (Option Char)
  deriving Repr

/-- The table of a text with a row on each line and a full stop for each empty cell. -/
def Grid.ofRows (width : Nat) (text : String) : Grid :=
  ⟨width, ((text.toList.filter (· != '\n')).map fun c => if c == '.' then none else some c).toArray⟩

def Grid.char? (grid : Grid) (row column : Nat) : Option Char :=
  if column < grid.width then (grid.cells[row * grid.width + column]?).join else none

end LanguageDetection.Text.Charset
