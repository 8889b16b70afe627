import TypedSql.Expr.Basic
import TypedSql.Shape.Basic

/-!
# Scopes

The tables that an expression may refer to, the root table first and then the
joined ones in the order of the joins.
-/

namespace TypedSql

/-- The tables of a query. -/
abbrev Scope := List Shape

/-- A column of a table, both by the names that statements use. -/
structure Place where
  table : String
  column : String
  deriving DecidableEq

namespace Scope

/-- Whether a column reference may refer to the table of a shape. -/
def admits (reference : ColumnRef) (shape : Shape) : Bool :=
  match reference.table with
  | none => true
  | some table => table == shape.table

/-- The place of a column in a shape. -/
def placeIn? (name : String) (shape : Shape) : Option Place :=
  (shape.field? name).map fun field => ⟨shape.table, field.column⟩

/-- The place of a column in the first table that may have it and does. -/
def place? (scope : Scope) (reference : ColumnRef) : Option Place :=
  (scope.filter (admits reference)).findSome? (placeIn? reference.name)

/-- The place of a column, or why it has none. -/
def resolve (scope : Scope) (reference : ColumnRef) : Except CompileError Place :=
  match scope.place? reference with
  | some place => .ok place
  | none =>
      match reference.table with
      | none => .error (.unknownColumn reference.name)
      | some table =>
          if scope.any (admits reference) then
            .error (.unknownColumnOf reference.name table)
          else
            .error (.foreignTable table)

end Scope
end TypedSql
