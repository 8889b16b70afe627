import TypedSql.Numeric.Decimal.Notation
import TypedSql.Text.Quoted
import TypedSql.Value.Basic

/-!
# Texts of values

Two texts of a value: a plain one for readers of messages, and a literal one
that names the kind and quotes the content.
-/

namespace TypedSql
namespace Value

/-- The name of a truth value. -/
def booleanLabel (flag : Bool) : String :=
  if flag then "true" else "false"

/-- The plain text of a value. -/
def plain : Value → String
  | .null => "NULL"
  | .boolean flag => booleanLabel flag
  | .integer number => toString number.toInt
  | .real number => number.text .plain
  | .text content => "'" ++ content ++ "'"
  | .blob bytes => "<" ++ toString bytes.size ++ " bytes>"

/-- Texts in square brackets, with a comma and a blank between them. -/
def bracketed (items : List String) : String :=
  "[" ++ String.intercalate ", " items ++ "]"

/-- The literal text of a value. -/
def literal : Value → String
  | .null => "Null"
  | .boolean flag => "Bool(" ++ booleanLabel flag ++ ")"
  | .integer number => "Integer(" ++ toString number.toInt ++ ")"
  | .real number => "Real(" ++ number.text .literal ++ ")"
  | .text content => "Text(" ++ Quoted.encode content ++ ")"
  | .blob bytes =>
      "Blob(" ++ bracketed (bytes.data.toList.map fun byte => toString byte.toNat) ++ ")"

end Value
end TypedSql
