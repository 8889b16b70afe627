import TypedSql.Dialect.Basic

/-!
# The bracketed dialect

A dialect with identifiers in square brackets, numbered placeholders after a
colon, and pages that start at the first row.
-/

namespace TypedSql

/-- Identifiers are not escaped, and an offset is ignored. -/
def Dialect.bracketed : Dialect where
  name := "Bracketed"
  quote := fun name => "[" ++ name ++ "]"
  placeholder := fun index => ":" ++ toString index
  paging := fun limit _ =>
    limit.map fun count => "FETCH FIRST " ++ toString count.toNat ++ " ROWS ONLY"

end TypedSql
