import TypedSql.Proofs.Query.Built
import TypedSql.Relation.Load

/-!
# What statements are put together from

The clauses of a statement are the fragments of its query in a row, so that a property
of the fragments is one of the clauses. The statements of keys and of children have the
clauses of the query inside.
-/

namespace TypedSql
namespace Query

variable {query : Query} {holds : Scope → Fragment → Prop} {projection : Fragment}

/-- A select statement up to its page. -/
def bodyOf (query : Query) (projection : Fragment) : Fragment :=
  .keyword .selectKw :: projection ++ query.fromClause ++ query.whereClause ++
    query.groupClause ++ query.orderClause

/-- The page is the last part of a select statement. -/
theorem selectFragmentOf_eq (query : Query) (projection : Fragment) :
    query.selectFragmentOf projection = query.bodyOf projection ++ query.pageClause := rfl

/-! ## Clauses -/

section Clauses

variable
    (built : Built holds query)
    (stable : Fragment.Stable holds)
    (chunks : Fragment.Concatenable (holds query.scope))
    (tables : ∀ symbol : Token, symbol.introduces = true → holds query.scope [.token symbol])

include built stable chunks tables in
theorem holds_fromClause : holds query.scope query.fromClause := by
  apply chunks.append [_] _ (tables (.keyword .fromKw) rfl)
  apply chunks.identifier_cons
  apply chunks.flatMap
  intro join member
  have condition := chunks.keyword_cons .onKw rfl (built.condition stable join member)
  have table := chunks.identifier_cons join.shape.table condition
  have joined := chunks.append [_] _ (tables (.keyword .joinKw) rfl) table
  cases kind : join.kind <;>
    rw [joinClause, kind] <;>
    exact chunks.keyword_cons _ rfl joined

include built chunks in
theorem holds_whereClause : holds query.scope query.whereClause := by
  unfold whereClause
  split
  · exact chunks.empty
  · next filter present => exact chunks.keyword_cons .whereKw rfl (built.filter filter present)

include chunks in
theorem holds_listClause
    {word : Keyword}
    {items : List Fragment}
    (introducesNone : (Token.keyword word).introduces = false)
    (each : ∀ item ∈ items, holds query.scope item) :
    holds query.scope (listClause word items) := by
  unfold listClause
  split
  · exact chunks.empty
  · have listed := chunks.keyword_cons .byKw rfl (chunks.commas each)
    exact chunks.keyword_cons word introducesNone listed

include built chunks in
theorem holds_groupClause : holds query.scope query.groupClause :=
  holds_listClause chunks rfl built.grouping

include built chunks in
theorem holds_orderClause : holds query.scope query.orderClause := by
  apply holds_listClause chunks rfl
  intro item member
  obtain ⟨inner, direction, innerHolds, rfl⟩ := built.order item member
  cases direction <;> exact chunks.append _ _ innerHolds (chunks.keyword_cons _ rfl chunks.empty)

include built stable chunks tables in
/-- What the fragments of a query and a projection have, a select statement has. -/
theorem holds_bodyOf (projected : holds query.scope projection) :
    holds query.scope (query.bodyOf projection) := by
  have front := chunks.append _ _ (chunks.keyword_cons .selectKw rfl projected)
    (holds_fromClause built stable chunks tables)
  have filtered := chunks.append _ _ front (holds_whereClause built chunks)
  have grouped := chunks.append _ _ filtered (holds_groupClause built chunks)
  exact chunks.append _ _ grouped (holds_orderClause built chunks)

include built stable chunks tables in
/-- What the fragments of a query have, the statement that counts its rows has. -/
theorem holds_countFragment : holds query.scope query.countFragment := by
  have counted := (stable.pieces query.scope).countRows
  have front := chunks.append _ _ (chunks.keyword_cons .selectKw rfl counted)
    (holds_fromClause built stable chunks tables)
  have filtered := chunks.append _ _ front (holds_whereClause built chunks)
  exact chunks.append _ _ filtered (holds_groupClause built chunks)

include built chunks in
/-- A projection that was asked for has what the fragments of its query have. -/
theorem holds_projection
    (present : query.projection = some projection) :
    holds query.scope projection := by
  obtain ⟨items, _, each, rfl⟩ := built.projection projection present
  apply chunks.commas
  intro item member
  cases each item member with
  | plain held => exact held
  | named name held => exact chunks.named name held

include built chunks in
theorem holds_effectiveProjection
    (columns : ∀ field ∈ query.root.fields,
      holds query.scope (.qualified query.root.table field.column)) :
    holds query.scope query.effectiveProjection := by
  unfold effectiveProjection
  cases present : query.projection with
  | some projection => exact holds_projection built chunks present
  | none =>
      rw [Option.getD_none, defaultProjection]
      split
      · exact chunks.token (.mark .star) (by simp) rfl
      · apply chunks.commas
        intro item member
        obtain ⟨field, allowed, rfl⟩ := List.mem_map.mp member
        exact columns field (List.mem_of_mem_filter allowed)

include built stable chunks in
/-- A projection onto another entity lists places of the query, under names or not. -/
theorem holds_projectionInto
    {target : Shape}
    (projected : query.projectionInto target = .ok projection) :
    holds query.scope projection := by
  unfold projectionInto at projected
  split at projected
  · next present =>
    cases projected
    exact holds_projection built chunks present
  · dsimp only at projected
    split at projected
    · cases projected
    · cases projected
      apply chunks.commas
      intro item member
      obtain ⟨field, _, located⟩ := List.mem_filterMap.mp member
      obtain ⟨place, found, rfl⟩ := Option.map_eq_some_iff.mp located
      have held : holds query.scope (.place place) := by
        rcases Option.or_eq_some_iff.mp found with byColumn | ⟨_, byName⟩
        · exact (stable.pieces _).place _ place (Scope.resolve_eq_ok.mpr byColumn)
        · exact (stable.pieces _).place _ place (Scope.resolve_eq_ok.mpr byName)
      unfold itemFor
      split
      · exact held
      · exact chunks.named field.column held

end Clauses

/-! ## Keys and children -/

/-- The statement that reads a column of a query's rows as a key. -/
def keyRows (query : Query) (place : Place) : Fragment :=
  query.selectFragmentOf (Fragment.named (.place place) keyColumn)

/-- Keys are read from rows that stand in a table of their own. -/
def keysFrom (rows : Fragment) : Fragment :=
  Fragment.named
    (.keyword .selectKw :: Fragment.qualified keyTable keyColumn ++
      .keyword .fromKw :: Fragment.parens rows)
    keyTable

theorem keySubquery_eq_ok {key : String} {keys : Fragment} :
    query.keySubquery key = .ok keys ↔
      ∃ place, query.scope.resolve ⟨none, key⟩ = .ok place ∧
        keysFrom (query.keyRows place) = keys := by
  simp only [keySubquery, bind_eq_ok, pure_eq_ok, keysFrom, keyRows]

/-- The keys of a field are looked up by one of its names. -/
theorem exists_keySubquery
    {field : Field}
    {keys : Fragment}
    (found : query.keysOf field = .ok keys) :
    ∃ key, query.keySubquery key = .ok keys := by
  unfold keysOf at found
  split at found
  · next byColumn =>
    cases found
    exact ⟨field.column, byColumn⟩
  · exact ⟨field.name, found⟩

end Query

namespace Relation

/-- The statement that reads children, up to the keys that are looked up. -/
def childHead (relation : Relation) (key : Field) : Fragment :=
  let shape := relation.child
  .keyword .selectKw ::
    Fragment.commas (shape.fields.map fun field => .qualified shape.table field.column) ++
      .keyword .fromKw :: .identifier shape.table :: .keyword .whereKw ::
        Fragment.qualified shape.table key.column ++ [.keyword .inKw]

theorem holds_childHead
    {holds : Fragment → Prop}
    (relation : Relation)
    (chunks : Fragment.Concatenable holds)
    (tables : ∀ symbol : Token, symbol.introduces = true → holds [.token symbol])
    {key : Field}
    (column : ∀ field : Field, holds (.qualified relation.child.table field.column)) :
    holds (relation.childHead key) := by
  have columns : holds (.commas
      (relation.child.fields.map fun field => .qualified relation.child.table field.column)) := by
    apply chunks.commas
    intro item member
    obtain ⟨field, _, rfl⟩ := List.mem_map.mp member
    exact column field
  have compared := chunks.identifier_cons relation.child.table
    (chunks.keyword_cons .whereKw rfl (column key))
  have read := chunks.append [_] _ (tables (.keyword .fromKw) rfl) compared
  have front := chunks.append _ _ (chunks.keyword_cons .selectKw rfl columns) read
  exact chunks.append _ _ front (chunks.token (.keyword .inKw) (by simp) rfl)

theorem childStatement_eq_ok
    {relation : Relation}
    {keys : Fragment}
    {dialect : Dialect}
    {statement : Statement} :
    relation.childStatement keys dialect = .ok statement ↔
      ∃ entry, relation.child.locate relation.childKey = .ok entry ∧
        (relation.childHead entry.2 ++ keys.parens).build dialect = statement := by
  simp only [childStatement, bind_eq_ok, pure_eq_ok]
  simp [childHead]

end Relation
end TypedSql
