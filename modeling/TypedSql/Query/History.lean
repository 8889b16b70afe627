import TypedSql.Query.Basic

/-!
# Histories of calls

The calls that extend a query, as data, so that a query can be described by the
calls that led to it.
-/

namespace TypedSql

/-- A call that extends a query. -/
inductive QueryCall
  | select (items : List Expr)
  | selectFragment (projection : Fragment)
  | filter (connective : Connective) (predicate : Expr)
  | join (kind : JoinKind) (shape : Shape) (condition : Expr)
  | orderBy (expr : Expr) (direction : Direction)
  | groupBy (expr : Expr)
  | limit (count : UInt64)
  | offset (count : UInt64)
  | restrict (names : List String)

namespace Query

/-- The query after a call, or why the call is not possible. -/
def extend (query : Query) : QueryCall → Except CompileError Query
  | .select items => query.select items
  | .selectFragment projection => .ok (query.selectFragment projection)
  | .filter connective predicate => query.filterBy connective predicate
  | .join kind shape condition => query.join kind shape condition
  | .orderBy expr direction => query.orderBy expr direction
  | .groupBy expr => query.groupBy expr
  | .limit count => .ok (query.withLimit count)
  | .offset count => .ok (query.withOffset count)
  | .restrict names => .ok (query.restrict names)

/-- The query after a call; a call that is not possible changes nothing. -/
def extendOrKeep (query : Query) (call : QueryCall) : Query :=
  match query.extend call with
  | .ok extended => extended
  | .error _ => query

/-- The query after calls, or the position and cause of the first that is not possible. -/
def extendAll (query : Query) : List QueryCall → Except (Nat × CompileError) Query
  | [] => .ok query
  | call :: rest =>
      match query.extend call with
      | .error cause => .error (0, cause)
      | .ok extended =>
          (extended.extendAll rest).mapError fun failure => (failure.1 + 1, failure.2)

end Query
end TypedSql
