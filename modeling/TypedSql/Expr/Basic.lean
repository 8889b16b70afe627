import TypedSql.Error
import TypedSql.Sql.Token
import TypedSql.Value.Basic

/-!
# Expressions

An expression is an untyped tree over columns and literal values. It is compiled
against the tables of a query; its literals only ever become bound parameters.
-/

namespace TypedSql

/-- A column by field or column name, pinned to a table or not. -/
structure ColumnRef where
  table : Option String
  name : String
  deriving DecidableEq

/-- The directions in which rows are ordered. -/
inductive Direction
  | ascending
  | descending
  deriving DecidableEq, Inhabited

/-- The keyword of a direction. -/
def Direction.keyword : Direction → Keyword
  | .ascending => .ascKw
  | .descending => .descKw

/-- An expression that has not been compiled. -/
inductive Expr
  | column (reference : ColumnRef)
  | literal (value : Value)
  | binary (operator : Operator) (left right : Expr)
  /-- Conditions combined by one connective. -/
  | group (connective : Connective) (items : List Expr)
  | negation (inner : Expr)
  /-- The test that an operand is null, or that it is not. -/
  | nullTest (inner : Expr) (negated : Bool)
  /-- The test that an operand is among some items, or that it is not. -/
  | membership (operand : Expr) (items : List Expr) (negated : Bool)
  /-- The test that an operand matches a pattern, or that it does not. -/
  | like (operand pattern : Expr) (negated : Bool)
  | call (function : String) (arguments : List Expr)
  /-- The number of all rows. -/
  | countRows
  /-- An expression under a name of its own, for projections only. -/
  | named (inner : Expr) (name : String)
  deriving Inhabited

namespace Expr

/-- A column of any table of the query. -/
def col (name : String) : Expr := .column ⟨none, name⟩

/-- A column of one table of the query. -/
def colOf (table name : String) : Expr := .column ⟨some table, name⟩

/--
Two conditions under a connective. A left condition that is already a group of
the same connective takes the right one in.
-/
def combine (connective : Connective) (left right : Expr) : Expr :=
  match left with
  | .group inner items =>
      if inner = connective then .group connective (items ++ [right])
      else .group connective [left, right]
  | _ => .group connective [left, right]

/-- Whether the expression is the null literal. -/
def isNullLiteral : Expr → Bool
  | .literal .null => true
  | _ => false

/-- Whether the expression needs parentheses as an operand of another one. -/
def isCompound : Expr → Bool
  | .binary .. => true
  | .group .. => true
  | .negation _ => true
  | .nullTest .. => true
  | .membership .. => true
  | .like .. => true
  | _ => false

/-- Whether the expression is a group of conditions. -/
def isGroup : Expr → Bool
  | .group .. => true
  | _ => false

end Expr
end TypedSql
