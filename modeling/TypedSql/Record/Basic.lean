import TypedSql.Shape.Basic
import TypedSql.Value.Conversion

/-!
# Records

A record is an entity of a shape: one value for each mapped field. A field that
refuses a value keeps the one it has.
-/

namespace TypedSql

/-- The values of an entity's fields, in the order of the shape. -/
structure Record where
  shape : Shape
  values : List Value
  deriving DecidableEq

namespace Record

/-- The record in which every field is fresh. -/
def fresh (shape : Shape) : Record :=
  ⟨shape, shape.fields.map fun field => field.type.fresh⟩

/-- The value of a field; the null value where there is no field. -/
def get (record : Record) (position : Nat) : Value :=
  record.values.getD position .null

/-- The record with a value read into a field, or why the field refuses it. -/
def set (record : Record) (position : Nat) (value : Value) : Except ValueError Record :=
  match record.shape.fields[position]? with
  | none => .error (.noField position)
  | some field => do
      let held ← field.type.read value
      return { record with values := record.values.set position held }

/-- The record with values read into its fields in order; what is refused is left out. -/
def setAll (record : Record) (values : List Value) : Record :=
  values.zipIdx.foldl
    (fun current entry =>
      match current.set entry.2 entry.1 with
      | .ok next => next
      | .error _ => current)
    record

end Record
end TypedSql
