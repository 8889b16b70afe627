import TypedSql.Value.Basic

/-!
# Wire encodings

The bytes in which a value is sent to a server for a parameter of a given wire
type. Numbers are big-endian. A truth value, a text and a blob have one encoding
whatever the wire type is; an integer and a real follow the wire types that are
listed for them and otherwise take their widest encoding.
-/

namespace TypedSql

/-- The types of a server's parameters. -/
inductive WireType
  | int2
  | int4
  | int8
  | float4
  | float8
  | bool
  | text
  | bytea
  | numeric
  deriving DecidableEq

/-- An integer that the parameter is too narrow for. -/
structure WireError where
  number : Int64
  target : WireType
  deriving DecidableEq

namespace Wire

/-- The lowest `width` bytes of a number, the highest of them first. -/
def bigEndian (width number : Nat) : ByteArray :=
  ⟨((List.range width).map fun place =>
    UInt8.ofNat (number / Nat.pow 256 (width - 1 - place))).toArray⟩

/-- The number of different words of `width` bytes. -/
def modulus (width : Nat) : Nat :=
  Nat.pow 256 width

/-- The two's complement of an integer in `width` bytes. -/
def integer (width : Nat) (number : Int) : ByteArray :=
  bigEndian width (number % modulus width).toNat

/-- A truth value in one byte. -/
def boolean (flag : Bool) : ByteArray :=
  bigEndian 1 (if flag then 1 else 0)

/-- Whether an integer has a two's complement in `width` bytes. -/
def Fits (width : Nat) (number : Int) : Prop :=
  -(modulus width : Int) ≤ 2 * number ∧ 2 * number < modulus width

instance (width : Nat) (number : Int) : Decidable (Fits width number) := by
  unfold Fits
  infer_instance

/-- An integer in `width` bytes, or the error that it is too large. -/
def integerIn
    (width : Nat)
    (target : WireType)
    (number : Int64) :
    Except WireError ByteArray :=
  if Fits width number.toInt then .ok (integer width number.toInt)
  else .error ⟨number, target⟩

/-- A double in four bytes. -/
def single (number : Binary64) : ByteArray :=
  bigEndian 4 number.toSingleWord

/-- A double in eight bytes. -/
def double (number : Binary64) : ByteArray :=
  bigEndian 8 number.word

/-- The single-precision number nearest to an integer, in four bytes. -/
def singleOfInt (number : Int) : ByteArray :=
  bigEndian 4 (BinaryFormat.single.ofInt number)

end Wire

/-- The bytes of a value for a wire type; the null value has none. -/
def Value.wire : Value → WireType → Except WireError (Option ByteArray)
  | .null, _ => .ok none
  | .boolean flag, _ => .ok (Wire.boolean flag)
  | .integer number, .int2 => some <$> Wire.integerIn 2 .int2 number
  | .integer number, .int4 => some <$> Wire.integerIn 4 .int4 number
  | .integer number, .float4 => .ok (Wire.singleOfInt number.toInt)
  | .integer number, .float8 => .ok (Wire.double (.ofInt number.toInt))
  | .integer number, .bool => .ok (Wire.boolean (number != 0))
  | .integer number, _ => .ok (Wire.integer 8 number.toInt)
  | .real number, .float4 => .ok (Wire.single number)
  | .real number, _ => .ok (Wire.double number)
  | .text content, _ => .ok content.toByteArray
  | .blob bytes, _ => .ok bytes

end TypedSql
