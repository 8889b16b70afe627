import TypedSql.Text.Ascii
import TypedSql.Value.FieldType

/-!
# Shapes

A shape describes the rows of a table: its name and its mapped fields, each with
a name, a column and a type. Fields are found by field or column name through an
index in which the first field to claim a name keeps it.
-/

namespace TypedSql

/-- A mapped field of an entity. -/
structure Field where
  /-- The name of the field. -/
  name : String
  /-- The name of the column that the field is kept in. -/
  column : String
  type : FieldType
  deriving DecidableEq

namespace Field

/-- The storage class that cells of the field's column are converted to. -/
def sqlType (field : Field) : SqlType :=
  field.type.sqlType

/-- Whether a name is the name or the column of the field, up to case. -/
def isNamed (field : Field) (name : String) : Bool :=
  Ascii.same name field.name || Ascii.same name field.column

end Field

/-- Names with the position of the field that each belongs to. -/
abbrev NameIndex := List (String × Nat)

namespace NameIndex

/-- The index with a name added, unless the name is taken. -/
def insertNew (index : NameIndex) (name : String) (position : Nat) : NameIndex :=
  match index.lookup name with
  | some _ => index
  | none => (name, position) :: index

/-- The index with both names of a field added in lower case. -/
def insertField (index : NameIndex) (field : Field) (position : Nat) : NameIndex :=
  (index.insertNew (Ascii.lower field.name) position).insertNew
    (Ascii.lower field.column) position

/-- The index with the names of fields added, the first at `position`. -/
def insertFields (index : NameIndex) : List Field → Nat → NameIndex
  | [], _ => index
  | field :: rest, position =>
      (index.insertField field position).insertFields rest (position + 1)

/-- The position of a name, as it is or else in lower case. -/
def find? (index : NameIndex) (name : String) : Option Nat :=
  match index.lookup name with
  | some position => some position
  | none => index.lookup (Ascii.lower name)

end NameIndex

/-- A table and the fields mapped to its columns. -/
structure Shape where
  table : String
  fields : List Field
  deriving DecidableEq

namespace Shape

/-- The names of the shape's fields and columns. -/
def nameIndex (shape : Shape) : NameIndex :=
  NameIndex.insertFields [] shape.fields 0

/-- The position of the field with a name or column, up to case. -/
def find? (shape : Shape) (name : String) : Option Nat :=
  shape.nameIndex.find? name

/-- The field with a name or column, up to case. -/
def field? (shape : Shape) (name : String) : Option Field :=
  (shape.find? name).bind fun position => shape.fields[position]?

/-- The number of mapped fields. -/
def width (shape : Shape) : Nat :=
  shape.fields.length

end Shape

/-- The names to which the fields of a query are restricted, if they are. -/
abbrev Restriction := Option (List String)

/-- Whether a restriction leaves a field in. -/
def Restriction.allows (only : Restriction) (field : Field) : Bool :=
  match only with
  | none => true
  | some names => names.any field.isNamed

@[simp] theorem Restriction.allows_none (field : Field) :
    Restriction.allows none field = true := rfl

end TypedSql
