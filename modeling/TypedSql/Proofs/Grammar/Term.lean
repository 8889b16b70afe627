import TypedSql.Expr.Compile

/-!
# Terms

A term is an expression as a database reads it: columns are places, a group has
at least two conditions, and nothing is left of names and null literals that
were compared. Every expression stands for a term. Compilation is not mentioned
here; that a compiled expression is read as its term is proved elsewhere.
-/

namespace TypedSql

/-- An expression as a database reads it. -/
inductive Term
  | column (place : Place)
  | parameter (value : Value)
  | number (count : UInt64)
  | binary (operator : Operator) (left right : Term)
  | group (connective : Connective) (items : List Term)
  | negation (inner : Term)
  | nullTest (inner : Term) (negated : Bool)
  | membership (operand : Term) (items : List Term) (negated : Bool)
  | like (operand pattern : Term) (negated : Bool)
  | call (function : String) (arguments : List Term)
  | countRows

/-- An item of a projection: a term and the name it is given, if any. -/
structure Item where
  term : Term
  name : Option String

namespace Term

/-- Conditions under a connective; one condition alone is no group. -/
def grouped (connective : Connective) : List Term → Term
  | [only] => only
  | items => .group connective items

@[simp] theorem grouped_singleton (connective : Connective) (only : Term) :
    grouped connective [only] = only := rfl

/-- The comparison that is false, or true if `negated`. -/
def constantTest (negated : Bool) : Term :=
  .binary .eq (.number 1) (.number (if negated then 1 else 0))

end Term

/-- Whether an operator compares for equality, so that a null literal turns it into a test. -/
def Operator.testsEquality : Operator → Bool
  | .eq => true
  | .ne => true
  | _ => false

/-- The place of a column; a column that no table has keeps the names it was given. -/
def Scope.locate (scope : Scope) (reference : ColumnRef) : Place :=
  (scope.place? reference).getD ⟨reference.table.getD "", reference.name⟩

namespace Expr

mutual

/-- The term that an expression stands for. -/
def term (scope : Scope) : Expr → Term
  | .column reference => .column (scope.locate reference)
  | .literal value => .parameter value
  | .binary operator left right =>
      if operator.testsEquality && right.isNullLiteral then
        .nullTest (left.term scope) (operator = .ne)
      else if operator.testsEquality && left.isNullLiteral then
        .nullTest (right.term scope) (operator = .ne)
      else .binary operator (left.term scope) (right.term scope)
  | .group connective items => .grouped connective (terms scope items)
  | .negation inner => .negation (inner.term scope)
  | .nullTest inner negated => .nullTest (inner.term scope) negated
  | .membership operand items negated =>
      if items.isEmpty then .constantTest negated
      else .membership (operand.term scope) (terms scope items) negated
  | .like operand pattern negated =>
      .like (operand.term scope) (pattern.term scope) negated
  | .call function arguments => .call (Ascii.upper function) (terms scope arguments)
  | .countRows => .countRows
  | .named inner _ => inner.term scope

/-- The terms that expressions stand for. -/
def terms (scope : Scope) : List Expr → List Term
  | [] => []
  | item :: rest => item.term scope :: terms scope rest

end

/-- The item of a projection that an expression stands for. -/
def item (scope : Scope) : Expr → Item
  | .named inner name => ⟨inner.term scope, some name⟩
  | expr => ⟨expr.term scope, none⟩

end Expr
end TypedSql
