import TypedSql.Value.Basic

/-!
# Field types

The type of a mapped field: one of the scalar types, optional or not. A field
type fixes the storage class that its cells are converted to, the values that a
field of the type may hold, and the value of a fresh field.
-/

namespace TypedSql

/-- The integer types, signed and unsigned. -/
inductive IntegerType
  | signed8
  | signed16
  | signed32
  | signed64
  | unsigned8
  | unsigned16
  | unsigned32
  | unsigned64
  /-- The unsigned type of sizes, which is 64 bits wide. -/
  | size
  deriving DecidableEq

namespace IntegerType

/-- The name of an integer type. -/
def label : IntegerType → String
  | .signed8 => "i8"
  | .signed16 => "i16"
  | .signed32 => "i32"
  | .signed64 => "i64"
  | .unsigned8 => "u8"
  | .unsigned16 => "u16"
  | .unsigned32 => "u32"
  | .unsigned64 => "u64"
  | .size => "usize"

/-- The least number of an integer type. -/
def least : IntegerType → Int
  | .signed8 => -0x80
  | .signed16 => -0x8000
  | .signed32 => -0x80000000
  | .signed64 => -0x8000000000000000
  | _ => 0

/-- The greatest number of an integer type. -/
def greatest : IntegerType → Int
  | .signed8 => 0x7F
  | .signed16 => 0x7FFF
  | .signed32 => 0x7FFFFFFF
  | .signed64 => 0x7FFFFFFFFFFFFFFF
  | .unsigned8 => 0xFF
  | .unsigned16 => 0xFFFF
  | .unsigned32 => 0xFFFFFFFF
  | .unsigned64 => 0xFFFFFFFFFFFFFFFF
  | .size => 0xFFFFFFFFFFFFFFFF

/-- Whether a number belongs to an integer type. -/
def Contains (type : IntegerType) (number : Int) : Prop :=
  type.least ≤ number ∧ number ≤ type.greatest

instance (type : IntegerType) (number : Int) : Decidable (type.Contains number) := by
  unfold Contains
  infer_instance

/-- Every 64-bit integer belongs to the widest signed type. -/
theorem contains_signed64 (number : Int64) : signed64.Contains number.toInt :=
  ⟨Int64.le_toInt number, by
    have bound := Int64.toInt_lt number
    simp only [greatest]
    omega⟩

end IntegerType

/-- The types of a field that must hold a value. -/
inductive ScalarType
  | boolean
  | integer (type : IntegerType)
  /-- Reals rounded to single precision. -/
  | single
  | double
  | text
  | blob
  /-- Any value, the null value included. -/
  | any
  deriving DecidableEq

/-- The type of a mapped field. -/
structure FieldType where
  scalar : ScalarType
  /-- Whether the field may hold the null value. -/
  optional : Bool
  deriving DecidableEq

/-- The storage class that cells are converted to for a scalar type. -/
def ScalarType.sqlType : ScalarType → SqlType
  | .boolean => .boolean
  | .integer _ => .integer
  | .single => .real
  | .double => .real
  | .text => .text
  | .blob => .blob
  | .any => .any

/-- The value of a fresh field of a scalar type. -/
def ScalarType.fresh : ScalarType → Value
  | .boolean => .boolean false
  | .integer _ => .integer 0
  | .single => .real .zero
  | .double => .real .zero
  | .text => .text ""
  | .blob => .blob .empty
  | .any => .null

namespace FieldType

/-- The storage class that cells are converted to for a field type. -/
def sqlType (type : FieldType) : SqlType :=
  type.scalar.sqlType

/-- The value of a fresh field. -/
def fresh (type : FieldType) : Value :=
  if type.optional then .null else type.scalar.fresh

/-- The same type with the null value allowed. -/
def allowNull (type : FieldType) : FieldType :=
  { type with optional := true }

@[simp] theorem sqlType_allowNull (type : FieldType) :
    type.allowNull.sqlType = type.sqlType := rfl

end FieldType
end TypedSql
