import TypedSql.Layout
import TypedSql.Query.Basic

/-!
# Statements of a query

The statements that a query stands for: the rows themselves, their number, the
rows as another entity or as several, and the keys that follow-up queries look
up. All clauses but the projection are the same in each.
-/

namespace TypedSql
namespace Query

/-! ## Clauses -/

/-- The clause of a join. -/
def joinClause (join : Join) : Fragment :=
  .keyword join.kind.keyword :: .keyword .joinKw :: .identifier join.shape.table ::
    .keyword .onKw :: join.condition

/-- The tables of the query. -/
def fromClause (query : Query) : Fragment :=
  .keyword .fromKw :: .identifier query.root.table :: query.joins.flatMap joinClause

/-- The condition on rows. -/
def whereClause (query : Query) : Fragment :=
  match query.filter with
  | none => []
  | some filter => .keyword .whereKw :: filter.condition

/-- Expressions after two keywords, unless there are none. -/
def listClause (word : Keyword) (items : List Fragment) : Fragment :=
  if items.isEmpty then [] else .keyword word :: .keyword .byKw :: Fragment.commas items

/-- The expressions that rows are grouped by. -/
def groupClause (query : Query) : Fragment :=
  listClause .groupKw query.grouping

/-- The expressions that rows are ordered by. -/
def orderClause (query : Query) : Fragment :=
  listClause .orderKw query.order

/-- The page of rows that is asked for. -/
def pageClause (query : Query) : Fragment :=
  match query.dialect.paging query.limit query.offset with
  | none => []
  | some text => [.raw text]

/-! ## Projections -/

/-- The columns of the root's fields that the restriction leaves in. -/
def rootColumns (query : Query) : List Fragment :=
  (query.root.fields.filter query.only.allows).map fun field =>
    .qualified query.root.table field.column

/-- The projection of a query that was given none. -/
def defaultProjection (query : Query) : Fragment :=
  if query.rootColumns.isEmpty then [.mark .star] else .commas query.rootColumns

/-- The projection of a query. -/
def effectiveProjection (query : Query) : Fragment :=
  query.projection.getD query.defaultProjection

/-- The place from which a field of another entity is read, by column and then by name. -/
def placeFor? (query : Query) (field : Field) : Option Place :=
  (query.scope.place? ⟨none, field.column⟩).or (query.scope.place? ⟨none, field.name⟩)

/-- A place as an item for a field, under the field's column name if it has another. -/
def itemFor (field : Field) (place : Place) : Fragment :=
  if Ascii.same place.column field.column then .place place
  else Fragment.named (.place place) field.column

/-- The items for the fields of another entity that can be read. -/
def itemsInto (query : Query) (target : Shape) : List Fragment :=
  (target.fields.filter query.only.allows).filterMap fun field =>
    (query.placeFor? field).map (itemFor field)

/-- The projection onto another entity, or why there is none. -/
def projectionInto (query : Query) (target : Shape) : Except CompileError Fragment :=
  match query.projection with
  | some projection => .ok projection
  | none =>
      let items := query.itemsInto target
      if items.isEmpty then .error (.nothingResolves target.table)
      else .ok (.commas items)

/-! ## Statements -/

/-- The fragment that reads a projection of the query's rows. -/
def selectFragmentOf (query : Query) (projection : Fragment) : Fragment :=
  .keyword .selectKw :: projection ++ query.fromClause ++ query.whereClause ++
    query.groupClause ++ query.orderClause ++ query.pageClause

/-- The fragment that reads the query's rows. -/
def rowsFragment (query : Query) : Fragment :=
  query.selectFragmentOf query.effectiveProjection

/-- The fragment that counts rows; order and page are left out. -/
def countFragment (query : Query) : Fragment :=
  .keyword .selectKw :: Fragment.countRows ++ query.fromClause ++ query.whereClause ++
    query.groupClause

/-- The statement that reads the query's rows. -/
def toSelect (query : Query) : Statement :=
  query.rowsFragment.build query.dialect

/-- The statement that counts rows, one count for each group. -/
def toCount (query : Query) : Statement :=
  query.countFragment.build query.dialect

/-- The statement that counts the rows that `toSelect` reads. -/
def toRowCount (query : Query) : Statement :=
  query.toSelect.countRows query.dialect

/-- The bound values of `toSelect`. -/
def parameters (query : Query) : List Value :=
  query.toSelect.parameters

/-- The statement that reads the query's rows as another entity. -/
def toSelectInto (query : Query) (target : Shape) : Except CompileError Statement := do
  let projection ← query.projectionInto target
  return (query.selectFragmentOf projection).build query.dialect

/-- The first of some tables that the query does not read. -/
def unjoined? (query : Query) (shapes : List Shape) : Option Shape :=
  shapes.find? fun shape => !query.reads shape.table

/-- The statement that reads the query's rows as several entities, and its layout. -/
def toMultiSelect
    (query : Query)
    (shapes : List Shape) :
    Except CompileError (Statement × Layout) := do
  match query.unjoined? shapes with
  | some shape => throw (.unjoinedTable shape.table)
  | none =>
      let layout ← Layout.ofShapes shapes query.only
      return ((query.selectFragmentOf layout.projection).build query.dialect, layout)

/-- The name of the column of looked-up keys. -/
def keyColumn : String := "parent_key"

/-- The name of the table of looked-up keys. -/
def keyTable : String := "parents"

/--
The fragment that reads a column of the query's rows. The rows stand in a derived
table of their own, because a page may not be asked for where keys are listed.
-/
def keySubquery (query : Query) (key : String) : Except CompileError Fragment := do
  let place ← query.scope.resolve ⟨none, key⟩
  let rows := query.selectFragmentOf (Fragment.named (.place place) keyColumn)
  return Fragment.named
    (.keyword .selectKw :: Fragment.qualified keyTable keyColumn ++
      .keyword .fromKw :: Fragment.parens rows)
    keyTable

end Query
end TypedSql
