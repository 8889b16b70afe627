import TypedSql.Text.Quoted
import TypedSql.Value.FieldType

/-!
# Conversion errors

The causes for which a value cannot be converted, and their wording.
-/

namespace TypedSql

/-- Why a value cannot be converted. -/
inductive ValueError
  /-- The kind of the value does not convert to the storage class. -/
  | mismatch (expected : SqlType) (found : Kind)
  /-- The text does not denote a value of the storage class. -/
  | unreadable (content : String) (target : SqlType)
  /-- The integer does not belong to the integer type. -/
  | outOfRange (number : Int64) (target : IntegerType)
  /-- The natural number is above every signed 64-bit integer. -/
  | tooLarge (number : UInt64)
  | unexpectedNull
  /-- There is no field with the index. -/
  | noField (index : Nat)
  deriving DecidableEq

/-- The wording of a conversion error. -/
def ValueError.message : ValueError → String
  | .mismatch expected found => "expected " ++ expected.label ++ ", found " ++ found.label
  | .unreadable content target =>
      "cannot parse " ++ Quoted.encode content ++ " as " ++ target.label
  | .outOfRange number target =>
      toString number.toInt ++ " is out of range for " ++ target.label
  | .tooLarge number =>
      toString number.toNat ++ " does not fit in a signed 64-bit integer"
  | .unexpectedNull => "unexpected NULL"
  | .noField index => "no field at index " ++ toString index

end TypedSql
