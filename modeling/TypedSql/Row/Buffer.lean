import TypedSql.Row.Basic

/-!
# Buffered rows

Rows that were fetched beforehand and are handed out one by one until the buffer
is closed. Closing drops what is left.
-/

namespace TypedSql

/-- Rows still to be handed out. -/
structure RowBuffer where
  columns : List String
  rows : List Row
  closed : Bool
  deriving DecidableEq

namespace RowBuffer

/-- An open buffer. -/
def ofRows (columns : List String) (rows : List Row) : RowBuffer :=
  ⟨columns, rows, false⟩

/-- The number of rows not yet handed out. -/
def remaining (buffer : RowBuffer) : Nat :=
  buffer.rows.length

/-- The next row, if the buffer is open and has one, and the buffer after it. -/
def next (buffer : RowBuffer) : Option Row × RowBuffer :=
  if buffer.closed then (none, buffer)
  else (buffer.rows.head?, { buffer with rows := buffer.rows.tail })

/-- The buffer after closing. -/
def close (buffer : RowBuffer) : RowBuffer :=
  { buffer with rows := [], closed := true }

@[simp] theorem remaining_close (buffer : RowBuffer) : buffer.close.remaining = 0 := rfl

/-- Closing a second time changes nothing. -/
@[simp] theorem close_close (buffer : RowBuffer) : buffer.close.close = buffer.close := rfl

/-- A closed buffer hands out nothing. -/
@[simp] theorem next_close (buffer : RowBuffer) :
    buffer.close.next = (none, buffer.close) := rfl

end RowBuffer
end TypedSql
