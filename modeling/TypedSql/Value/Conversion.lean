import TypedSql.Numeric.Decimal.Reader
import TypedSql.Text.Blank
import TypedSql.Value.Error

/-!
# Conversion of values

Two layers convert a cell on its way into a field. `Value.coerce` is loose: it
brings a value into a storage class wherever no information is lost.
`FieldType.read` is strict about the kind and checks the range of the field.
`Value.ofNatural` goes the other way for numbers that may not fit.
-/

namespace TypedSql
namespace Value

/-- The 64-bit integer equal to an integer, if there is one. -/
def int64? (number : Int) : Option Int64 :=
  if IntegerType.signed64.Contains number then some (Int64.ofInt number) else none

/-- The 64-bit integer that a text denotes, blanks around it aside. -/
def readInteger? (content : String) : Option Int64 :=
  (Decimal.readInteger? (Blank.trim content.toList)).bind int64?

/-- The double nearest to what a text denotes, blanks around it aside. -/
def readReal? (content : String) : Option Binary64 :=
  Decimal.readDouble? (Blank.trim content.toList)

/-- The truth value that a text denotes. -/
def readBoolean? (content : String) : Option Bool :=
  if content ∈ ["t", "true", "TRUE", "1"] then some true
  else if content ∈ ["f", "false", "FALSE", "0"] then some false
  else none

/-- A value read from a text, or the error that the text is unreadable. -/
def ofReading
    (content : String)
    (target : SqlType)
    (reading : Option Value) :
    Except ValueError Value :=
  match reading with
  | some value => .ok value
  | none => .error (.unreadable content target)

/--
A value brought into a storage class. The null value passes unchanged; a
fractional or far too large real is no integer.
-/
def coerce (value : Value) (target : SqlType) : Except ValueError Value :=
  match value, target with
  | .null, _ => .ok .null
  | value, .any => .ok value
  | .boolean flag, .boolean => .ok (.boolean flag)
  | .integer number, .boolean => .ok (.boolean (number != 0))
  | .text content, .boolean =>
      ofReading content .boolean ((readBoolean? content).map .boolean)
  | .integer number, .integer => .ok (.integer number)
  | .boolean flag, .integer => .ok (.integer (if flag then 1 else 0))
  | .real number, .integer =>
      match number.toInt?.bind int64? with
      | some whole => .ok (.integer whole)
      | none => .error (.mismatch .integer .real)
  | .text content, .integer =>
      ofReading content .integer ((readInteger? content).map .integer)
  | .real number, .real => .ok (.real number)
  | .integer number, .real => .ok (.real (.ofInt number.toInt))
  | .text content, .real =>
      ofReading content .real ((readReal? content).map .real)
  | .text content, .text => .ok (.text content)
  | .blob bytes, .blob => .ok (.blob bytes)
  | .text content, .blob => .ok (.blob content.toByteArray)
  | value, target => .error (.mismatch target value.kind)

/-- The integer value of a natural number, if it fits. -/
def ofNatural (number : UInt64) : Except ValueError Value :=
  match int64? number.toNat with
  | some whole => .ok (.integer whole)
  | none => .error (.tooLarge number)

@[simp] theorem coerce_null (target : SqlType) : coerce .null target = .ok .null := rfl

@[simp] theorem coerce_any (value : Value) : value.coerce .any = .ok value := by
  cases value <;> rfl

end Value

namespace ScalarType

/-- The value that a field of a scalar type holds once it is given a value. -/
def read (type : ScalarType) (value : Value) : Except ValueError Value :=
  match type, value with
  | .any, value => .ok value
  | _, .null => .error .unexpectedNull
  | .boolean, .boolean flag => .ok (.boolean flag)
  | .integer target, .integer number =>
      if target.Contains number.toInt then .ok (.integer number)
      else .error (.outOfRange number target)
  | .double, .real number => .ok (.real number)
  | .double, .integer number => .ok (.real (.ofInt number.toInt))
  | .single, .real number => .ok (.real number.toSinglePrecision)
  | .single, .integer number =>
      .ok (.real (Binary64.ofInt number.toInt).toSinglePrecision)
  | .text, .text content => .ok (.text content)
  | .blob, .blob bytes => .ok (.blob bytes)
  | type, value => .error (.mismatch type.sqlType value.kind)

end ScalarType

/-- The value that a field holds once it is given a value. -/
def FieldType.read (type : FieldType) (value : Value) : Except ValueError Value :=
  if type.optional && value.isNull then .ok .null else type.scalar.read value

@[simp] theorem FieldType.read_allowNull_null (type : FieldType) :
    type.allowNull.read .null = .ok .null := rfl

end TypedSql
