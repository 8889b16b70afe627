import TypedSql.Value.Basic

/-!
# Storage cells

The cells of a file database: five storage classes, with texts kept as bytes
that need not be valid UTF-8. Truth values are stored as integers, and a text
cell that is not valid UTF-8 is read as a blob.
-/

namespace TypedSql

/-- A cell as a file database stores it. -/
inductive StorageCell
  | null
  | integer (number : Int64)
  | real (number : Binary64)
  | text (bytes : ByteArray)
  | blob (bytes : ByteArray)
  deriving DecidableEq

/-- The cell to which a value is bound. -/
def Value.store : Value → StorageCell
  | .null => .null
  | .boolean flag => .integer (if flag then 1 else 0)
  | .integer number => .integer number
  | .real number => .real number
  | .text content => .text content.toByteArray
  | .blob bytes => .blob bytes

/-- The value that is read from a cell. -/
def StorageCell.load : StorageCell → Value
  | .null => .null
  | .integer number => .integer number
  | .real number => .real number
  | .text bytes =>
      match String.fromUTF8? bytes with
      | some content => .text content
      | none => .blob bytes
  | .blob bytes => .blob bytes

end TypedSql
