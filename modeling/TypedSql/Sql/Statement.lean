import TypedSql.Dialect.Basic
import TypedSql.Value.Printer

/-!
# Statements

A statement is a text and the values of its placeholders, in the order of the
placeholders.
-/

namespace TypedSql

/-- A text ready to be executed, with its bound values. -/
structure Statement where
  sql : String
  parameters : List Value
  deriving DecidableEq

namespace Statement

/-- The statement that counts the rows of another one. -/
def countRows (dialect : Dialect) (statement : Statement) : Statement :=
  { statement with
    sql := "SELECT COUNT(*) FROM (" ++ statement.sql ++ ") AS " ++ dialect.quote "count" }

/-- A description of the statement and its values. -/
def describe (statement : Statement) : String :=
  "sql: \"" ++ statement.sql ++ "\", params: " ++
    Value.bracketed (statement.parameters.map Value.literal)

@[simp] theorem parameters_countRows (dialect : Dialect) (statement : Statement) :
    (statement.countRows dialect).parameters = statement.parameters := rfl

end Statement
end TypedSql
