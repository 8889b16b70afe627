import TypedSql.Numeric.Binary

/-!
# SQL values

A value is a bound parameter or a cell of a row. Values are dynamically typed:
each carries its kind, and equality compares kinds and contents, reals by their
bits.
-/

namespace TypedSql

/-- Blobs are compared by their bytes, whichever other instances are in scope. -/
instance (priority := 2000) blobDecidableEq : DecidableEq ByteArray :=
  ByteArray.instDecidableEq

/-- A single SQL value. -/
inductive Value
  | null
  | boolean (flag : Bool)
  | integer (number : Int64)
  | real (number : Binary64)
  | text (content : String)
  | blob (bytes : ByteArray)
  deriving DecidableEq, Inhabited

/-- The kind of a value. -/
inductive Kind
  | null
  | boolean
  | integer
  | real
  | text
  | blob
  deriving DecidableEq

/-- The storage class that a field asks for. -/
inductive SqlType
  | boolean
  | integer
  | real
  | text
  | blob
  /-- Every kind of value, unchanged. -/
  | any
  deriving DecidableEq

/-- The name of a kind. -/
def Kind.label : Kind → String
  | .null => "NULL"
  | .boolean => "BOOLEAN"
  | .integer => "INTEGER"
  | .real => "REAL"
  | .text => "TEXT"
  | .blob => "BLOB"

/-- The name of a storage class. -/
def SqlType.label : SqlType → String
  | .boolean => "BOOLEAN"
  | .integer => "INTEGER"
  | .real => "REAL"
  | .text => "TEXT"
  | .blob => "BLOB"
  | .any => "ANY"

namespace Value

/-- The kind of a value. -/
def kind : Value → Kind
  | .null => .null
  | .boolean _ => .boolean
  | .integer _ => .integer
  | .real _ => .real
  | .text _ => .text
  | .blob _ => .blob

/-- Whether the value is the null value. -/
def isNull : Value → Bool
  | .null => true
  | _ => false

/-- The number of an integer value. -/
def integer? : Value → Option Int64
  | .integer number => some number
  | _ => none

/-- The content of a text value. -/
def text? : Value → Option String
  | .text content => some content
  | _ => none

theorem isNull_iff (value : Value) : value.isNull = true ↔ value = .null := by
  cases value <;> simp [isNull]

/-- For each value of a list, the position of the first value equal to it. -/
def firstPositions (values : List Value) : List Nat :=
  values.map values.idxOf

end Value
end TypedSql
