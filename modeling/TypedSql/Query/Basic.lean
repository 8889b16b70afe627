import TypedSql.Expr.Compile

/-!
# Queries

A query reads one root table and the tables joined to it. Each call that extends
a query compiles its expressions at once, against the tables the query has by
then, so that what a query holds can always be rendered. The tables, against which
expressions are compiled, and the joins, which are rendered, are two lists.
-/

namespace TypedSql

/-- How a table is joined. -/
inductive JoinKind
  | inner
  | left
  deriving DecidableEq

/-- The keyword that tells how a table is joined. -/
def JoinKind.keyword : JoinKind → Keyword
  | .inner => .innerKw
  | .left => .leftKw

/-- A joined table and its compiled condition. -/
structure Join where
  kind : JoinKind
  shape : Shape
  condition : Fragment
  deriving DecidableEq

/-- The compiled condition on rows, with the connective at its top, if there is one. -/
structure Filter where
  condition : Fragment
  connective : Option Connective
  deriving DecidableEq

namespace Filter

/-- Whether a filter needs parentheses beside a connective. -/
def clashes (filter : Filter) (connective : Connective) : Bool :=
  filter.connective.any (· ≠ connective)

/-- The condition of a filter as an operand of a connective. -/
def operand (filter : Filter) (connective : Connective) : Fragment :=
  .parensIf (filter.clashes connective) filter.condition

/-- Two filters under a connective. -/
def combine (left right : Filter) (connective : Connective) : Filter where
  condition :=
    left.operand connective ++ .token connective.token :: right.operand connective
  connective := some connective

end Filter

/-- The connective at the top of a compiled condition. -/
def Expr.topConnective? : Expr → Option Connective
  | .group connective items => if 1 < items.length then some connective else none
  | _ => none

/-- The tables of a query: the root and then those that were joined to it, in their order. -/
structure Tables where
  root : Shape
  joined : List Shape
  deriving DecidableEq

namespace Tables

/-- The tables as columns are looked up in them. -/
def scope (tables : Tables) : Scope :=
  tables.root :: tables.joined

/-- The tables with one more behind them. -/
def push (tables : Tables) (shape : Shape) : Tables :=
  { tables with joined := tables.joined ++ [shape] }

theorem scope_push (tables : Tables) (shape : Shape) :
    (tables.push shape).scope = tables.scope ++ [shape] := rfl

end Tables

/-- A query over a root table. -/
structure Query where
  dialect : Dialect
  tables : Tables
  /-- The joins in the order in which they are rendered. -/
  joins : List Join
  /-- The projection, unless it is the root's columns. -/
  projection : Option Fragment
  filter : Option Filter
  order : List Fragment
  grouping : List Fragment
  limit : Option UInt64
  offset : Option UInt64
  /-- The fields to which projections and entities are restricted. -/
  only : Restriction

namespace Query

/-- The query for all rows of a table. -/
def ofRoot (dialect : Dialect) (root : Shape) : Query where
  dialect := dialect
  tables := ⟨root, []⟩
  joins := []
  projection := none
  filter := none
  order := []
  grouping := []
  limit := none
  offset := none
  only := none

/-- The table that the query is for. -/
def root (query : Query) : Shape :=
  query.tables.root

/-- The tables of the query, the root first. -/
def scope (query : Query) : Scope :=
  query.tables.scope

theorem scope_eq_cons (query : Query) : query.scope = query.root :: query.tables.joined := rfl

@[simp] theorem scope_ofRoot (dialect : Dialect) (root : Shape) :
    (ofRoot dialect root).scope = [root] := rfl

/-- Whether the query reads a table. -/
def reads (query : Query) (table : String) : Bool :=
  query.scope.any (·.table == table)

/-- The compiled items of a projection. -/
def compileProjections (scope : Scope) :
    List Expr → Except CompileError (List Fragment)
  | [] => return []
  | item :: rest => do
      let first ← item.compileProjection scope
      let others ← compileProjections scope rest
      return first :: others

/-- The query with another projection. -/
def select (query : Query) (items : List Expr) : Except CompileError Query := do
  let parts ← compileProjections query.scope items
  if parts.isEmpty then throw .emptyProjection
  return { query with projection := some (.commas parts) }

/-- The query with a projection that is already a fragment. -/
def selectFragment (query : Query) (projection : Fragment) : Query :=
  { query with projection := some projection }

/-- The query with a condition added by a connective. -/
def filterBy
    (query : Query)
    (connective : Connective)
    (predicate : Expr) :
    Except CompileError Query := do
  let condition ← predicate.compile query.scope
  let added : Filter := ⟨condition, predicate.topConnective?⟩
  let filter :=
    match query.filter with
    | none => added
    | some filter => filter.combine added connective
  return { query with filter := some filter }

/-- The query with a condition that rows must fulfil as well. -/
def filterAnd (query : Query) (predicate : Expr) : Except CompileError Query :=
  query.filterBy .and predicate

/-- The query with one more table. -/
def pushTable (query : Query) (shape : Shape) : Query :=
  { query with tables := query.tables.push shape }

/-- The query with one more join to render. -/
def pushJoin (query : Query) (join : Join) : Query :=
  { query with joins := query.joins ++ [join] }

@[simp] theorem scope_pushTable (query : Query) (shape : Shape) :
    (query.pushTable shape).scope = query.scope ++ [shape] :=
  query.tables.scope_push shape

@[simp] theorem joins_pushTable (query : Query) (shape : Shape) :
    (query.pushTable shape).joins = query.joins := rfl

@[simp] theorem scope_pushJoin (query : Query) (join : Join) :
    (query.pushJoin join).scope = query.scope := rfl

@[simp] theorem joins_pushJoin (query : Query) (join : Join) :
    (query.pushJoin join).joins = query.joins ++ [join] := rfl

/--
The query with a table joined on a condition. The table is there when the condition is
compiled, so that the condition may refer to it.
-/
def join
    (query : Query)
    (kind : JoinKind)
    (shape : Shape)
    (condition : Expr) :
    Except CompileError Query := do
  if query.reads shape.table then throw (.repeatedTable shape.table)
  let compiled ← condition.compile (query.pushTable shape).scope
  return (query.pushTable shape).pushJoin ⟨kind, shape, compiled⟩

/-- The query with one more expression to order by. -/
def orderBy
    (query : Query)
    (expr : Expr)
    (direction : Direction) :
    Except CompileError Query := do
  let compiled ← expr.compile query.scope
  return { query with order := query.order ++ [compiled ++ [.keyword direction.keyword]] }

/-- The query with one more expression to group by. -/
def groupBy (query : Query) (expr : Expr) : Except CompileError Query := do
  let compiled ← expr.compile query.scope
  return { query with grouping := query.grouping ++ [compiled] }

/-- The query for at most `count` rows. -/
def withLimit (query : Query) (count : UInt64) : Query :=
  { query with limit := some count }

/-- The query without its first `count` rows. -/
def withOffset (query : Query) (count : UInt64) : Query :=
  { query with offset := some count }

/-- The query restricted to the named fields. -/
def restrict (query : Query) (names : List String) : Query :=
  { query with only := some names }

/-- Whether the projection is not the root's columns. -/
def hasProjection (query : Query) : Bool :=
  query.projection.isSome

end Query
end TypedSql
