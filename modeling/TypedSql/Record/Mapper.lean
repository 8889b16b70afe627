import TypedSql.Error
import TypedSql.Layout
import TypedSql.Record.Basic
import TypedSql.Row.Basic

/-!
# Mapping rows to records

A mapper says which column of a result feeds which field of a shape: by name, the
first column of a name winning, or by position within a layout. Columns that feed
no field are left alone, and fields that no column feeds stay as they are. Each
cell is converted by the dialect before its field reads it. Mapping stops at the
first cell that does not convert; what was assigned and taken until then stays.
-/

namespace TypedSql

/-- Which columns of a result feed which fields of a shape. -/
structure Mapper where
  shape : Shape
  /-- The position of the first column that the mapper looks at. -/
  offset : Nat
  /-- For each column from there on, the position of the field that it feeds. -/
  slots : List (Option Nat)
  deriving DecidableEq

/-- The error that the cell of a row does not convert into a field. -/
def conversionError
    (row : Row)
    (position : Nat)
    (field : String)
    (cause : ValueError) :
    Error :=
  .conversion ⟨(row.columnName? position).getD "", field, cause⟩

namespace Mapper

/-- The field that a column feeds when some fields are already fed. -/
def slotFor
    (shape : Shape)
    (only : Restriction)
    (fed : List Nat)
    (column : String) :
    Option Nat :=
  (shape.find? column).filter fun position =>
    !fed.contains position && (shape.fields[position]?).any only.allows

/-- The fields that columns feed when some fields are already fed. -/
def slotsFrom (shape : Shape) (only : Restriction) :
    List Nat → List String → List (Option Nat)
  | _, [] => []
  | fed, column :: rest =>
      let slot := slotFor shape only fed column
      slot :: slotsFrom shape only (slot.toList ++ fed) rest

/-- The mapper by name for the columns of a result. -/
def ofColumns (shape : Shape) (columns : List String) (only : Restriction) : Mapper :=
  ⟨shape, 0, slotsFrom shape only [] columns⟩

/-- The mapper by position for the columns of a group. -/
def ofGroup (group : ColumnGroup) : Mapper :=
  ⟨group.shape, group.offset, group.fields.map some⟩

/-- The mappers of a layout, one for each group. -/
def ofLayout (layout : Layout) : List Mapper :=
  layout.groups.map ofGroup

/-- The number of columns that feed a field. -/
def mapped (mapper : Mapper) : Nat :=
  mapper.slots.countP Option.isSome

/-- A record with a cell converted and read into a field, or why this fails. -/
def assign
    (dialect : Dialect)
    (record : Record)
    (position : Nat)
    (cell : Value) :
    Except ValueError Record :=
  match record.shape.fields[position]? with
  | none => .error (.noField position)
  | some field => do
      let converted ← dialect.convert cell field.sqlType
      record.set position converted

/-- The name of the field at a position. -/
def fieldName (record : Record) (position : Nat) : String :=
  ((record.shape.fields[position]?).map Field.name).getD ""

/-- What comes of assigning the cells of the columns from `column` on. -/
def applyFrom (dialect : Dialect) :
    Nat → List (Option Nat) → Record → Row → Except Error Unit × Record × Row
  | _, [], record, row => (.ok (), record, row)
  | column, none :: slots, record, row =>
      applyFrom dialect (column + 1) slots record row
  | column, some position :: slots, record, row =>
      match row.take column with
      | (none, _) => applyFrom dialect (column + 1) slots record row
      | (some cell, rest) =>
          match assign dialect record position cell with
          | .ok next => applyFrom dialect (column + 1) slots next rest
          | .error cause =>
              (.error (conversionError row column (fieldName record position) cause),
                record, rest)

/-- What comes of assigning the mapped cells of a row to a record. -/
def apply
    (mapper : Mapper)
    (dialect : Dialect)
    (record : Record)
    (row : Row) :
    Except Error Unit × Record × Row :=
  applyFrom dialect mapper.offset mapper.slots record row

/-- A fresh record with the mapped cells of a row, and what is left of the row. -/
def materialize
    (mapper : Mapper)
    (dialect : Dialect)
    (row : Row) :
    Except Error Record × Row :=
  match mapper.apply dialect (.fresh mapper.shape) row with
  | (.ok _, record, rest) => (.ok record, rest)
  | (.error cause, _, rest) => (.error cause, rest)

/-- The record of a row, whatever is left of the row. -/
def read (mapper : Mapper) (dialect : Dialect) (row : Row) : Except Error Record :=
  (mapper.materialize dialect row).1

end Mapper

/--
The records of the first mappers, read one after the other from a row. `position`
is the position of the first of them among `total`.
-/
def readTupleFrom (dialect : Dialect) (total : Nat) :
    Nat → Nat → List Mapper → Row → Except Error (List Record) × Row
  | 0, _, _, row => (.ok [], row)
  | _ + 1, position, [], row =>
      (.error (.compilation (.missingGroup total position)), row)
  | count + 1, position, mapper :: mappers, row =>
      match mapper.materialize dialect row with
      | (.error cause, rest) => (.error cause, rest)
      | (.ok record, rest) =>
          match readTupleFrom dialect total count (position + 1) mappers rest with
          | (.ok records, left) => (.ok (record :: records), left)
          | (.error cause, left) => (.error cause, left)

/-- The records of a tuple with `arity` elements, and what is left of the row. -/
def readTuple
    (dialect : Dialect)
    (mappers : List Mapper)
    (arity : Nat)
    (row : Row) :
    Except Error (List Record) × Row :=
  readTupleFrom dialect mappers.length arity 0 mappers row

/-- The first cell of a row as a value of a type, if there is one, and what is left. -/
def readScalar
    (dialect : Dialect)
    (type : FieldType)
    (row : Row) :
    Except Error (Option Value) × Row :=
  match row.take 0 with
  | (none, _) => (.ok none, row)
  | (some cell, rest) =>
      match dialect.convert cell type.sqlType >>= type.read with
      | .ok value => (.ok (some value), rest)
      | .error cause => (.error (conversionError row 0 "scalar" cause), rest)

end TypedSql
