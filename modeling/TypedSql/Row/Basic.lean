import TypedSql.Value.Basic

/-!
# Result rows

A row holds the cells that a statement returned and the names of their columns.
Cells are taken out of a row one by one, and each leaves the null value behind.
-/

namespace TypedSql

/-- One row of a result. -/
structure Row where
  columns : List String
  cells : List Value
  deriving DecidableEq

namespace Row

/-- The number of cells. -/
def width (row : Row) : Nat :=
  row.cells.length

/-- The cell at a position. -/
def cell? (row : Row) (position : Nat) : Option Value :=
  row.cells[position]?

/-- The name of the column at a position. -/
def columnName? (row : Row) (position : Nat) : Option String :=
  row.columns[position]?

/-- The row with the null value at a position. -/
def clear (row : Row) (position : Nat) : Row :=
  { row with cells := row.cells.set position .null }

/-- The cell at a position, and the row without it. -/
def take (row : Row) (position : Nat) : Option Value × Row :=
  (row.cell? position, row.clear position)

@[simp] theorem columns_clear (row : Row) (position : Nat) :
    (row.clear position).columns = row.columns := rfl

@[simp] theorem width_clear (row : Row) (position : Nat) :
    (row.clear position).width = row.width := by
  simp [clear, width]

theorem cell?_clear_self
    (row : Row)
    {position : Nat}
    (inside : position < row.width) :
    (row.clear position).cell? position = some .null :=
  List.getElem?_set_self inside

/-- Other cells stay as they are. -/
theorem cell?_clear_of_ne
    (row : Row)
    {position other : Nat}
    (distinct : position ≠ other) :
    (row.clear position).cell? other = row.cell? other := by
  simp [clear, cell?, List.getElem?_set_ne distinct]

end Row
end TypedSql
