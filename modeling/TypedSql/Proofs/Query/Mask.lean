import TypedSql.Proofs.Expr.Mask
import TypedSql.Proofs.Query.History
import TypedSql.Query.Emit

/-!
# Queries with their literals masked

Masked calls lead from a masked query to the masked query that the calls lead to, with
the same outcomes, and what a masked query emits is what the query emits, masked.
-/

namespace TypedSql

/-- A join whose condition is masked. -/
def Join.mask (join : Join) : Join :=
  { join with condition := join.condition.mask }

/-- A filter whose condition is masked. -/
def Filter.mask (filter : Filter) : Filter :=
  { filter with condition := filter.condition.mask }

/-- A call whose literals are masked. -/
def QueryCall.mask : QueryCall → QueryCall
  | .select items => .select (items.map Expr.mask)
  | .selectFragment projection => .selectFragment projection.mask
  | .filter connective predicate => .filter connective predicate.mask
  | .join kind shape condition => .join kind shape condition.mask
  | .orderBy expr direction => .orderBy expr.mask direction
  | .groupBy expr => .groupBy expr.mask
  | .limit count => .limit count
  | .offset count => .offset count
  | .restrict names => .restrict names

/-- A query whose bound values are masked. -/
def Query.mask (query : Query) : Query :=
  { query with
    joins := query.joins.map Join.mask
    projection := query.projection.map Fragment.mask
    filter := query.filter.map Filter.mask
    order := query.order.map Fragment.mask
    grouping := query.grouping.map Fragment.mask }

namespace Query

/-! ## Calls -/

@[simp] theorem scope_mask (query : Query) : query.mask.scope = query.scope :=
  rfl

@[simp] theorem root_mask (query : Query) : query.mask.root = query.root :=
  rfl

@[simp] theorem joins_mask (query : Query) : query.mask.joins = query.joins.map Join.mask :=
  rfl

@[simp] theorem only_mask (query : Query) : query.mask.only = query.only :=
  rfl

theorem pushJoin_mask (query : Query) (join : Join) :
    (query.mask.pushTable join.shape).pushJoin join.mask =
      ((query.pushTable join.shape).pushJoin join).mask := by
  simp [pushTable, pushJoin, mask]

@[simp] theorem reads_mask (query : Query) (table : String) :
    query.mask.reads table = query.reads table := by
  rw [reads, reads, scope_mask]

@[simp] theorem topConnective?_mask (expr : Expr) :
    expr.mask.topConnective? = expr.topConnective? := by
  cases expr with
  | group connective items => simp [Expr.topConnective?]
  | _ => rfl

@[simp] theorem combine_mask (left right : Filter) (connective : Connective) :
    left.mask.combine right.mask connective = (left.combine right connective).mask := by
  simp [Filter.combine, Filter.operand, Filter.mask, Filter.clashes, Connective.token]

theorem compileProjections_mask (scope : Scope) (items : List Expr) :
    compileProjections scope (items.map Expr.mask) =
      List.map Fragment.mask <$> compileProjections scope items := by
  induction items with
  | nil => rfl
  | cons item rest inductionHypothesis =>
      simp [compileProjections, Expr.compileProjection, Expr.compileAt_mask, inductionHypothesis]

theorem compile_mask (scope : Scope) (expr : Expr) :
    expr.mask.compile scope = Fragment.mask <$> expr.compile scope :=
  expr.compileAt_mask scope false

/-- A masked call leads to the masked query, or fails for the same cause. -/
theorem extend_mask (query : Query) (call : QueryCall) :
    query.mask.extend call.mask = mask <$> query.extend call := by
  cases call with
  | select items =>
      simp only [QueryCall.mask, extend, select, scope_mask, compileProjections_mask]
      cases compileProjections query.scope items with
      | error cause => rfl
      | ok parts =>
          cases parts with
          | nil => rfl
          | cons first others => simp [mask, pure, Except.pure, bind, Except.bind]
  | filter connective predicate =>
      simp only [QueryCall.mask, extend, filterBy, scope_mask, compile_mask, topConnective?_mask]
      cases predicate.compile query.scope with
      | error cause => rfl
      | ok condition =>
          apply congrArg Except.ok
          cases before : query.filter with
          | none => simp [mask, before, Filter.mask]
          | some filter =>
              have combined := combine_mask filter ⟨condition, predicate.topConnective?⟩ connective
              simp only [mask, before, Option.map_some]
              rw [← combined]
              rfl
  | join kind shape condition =>
      simp only [QueryCall.mask, extend, join, scope_pushTable, scope_mask, compile_mask,
        reads_mask]
      cases query.reads shape.table with
      | true => rfl
      | false =>
          cases condition.compile (query.scope ++ [shape]) with
          | error cause => rfl
          | ok compiled => exact congrArg Except.ok (query.pushJoin_mask ⟨kind, shape, compiled⟩)
  | orderBy expr direction =>
      simp only [QueryCall.mask, extend, orderBy, scope_mask, compile_mask]
      cases expr.compile query.scope with
      | error cause => rfl
      | ok compiled => simp [mask, pure, Except.pure, bind, Except.bind]
  | groupBy expr =>
      simp only [QueryCall.mask, extend, groupBy, scope_mask, compile_mask]
      cases expr.compile query.scope with
      | error cause => rfl
      | ok compiled => simp [mask, pure, Except.pure, bind, Except.bind]
  | _ => rfl

/-- Masked calls lead to the masked query. -/
theorem extendEach_mask (query : Query) (calls : List QueryCall) :
    query.mask.extendEach (calls.map QueryCall.mask) = (query.extendEach calls).mask := by
  induction calls generalizing query with
  | nil => rfl
  | cons call calls inductionHypothesis =>
      have step : query.mask.extendOrKeep call.mask = (query.extendOrKeep call).mask := by
        rw [extendOrKeep, extendOrKeep, extend_mask]
        cases query.extend call <;> rfl
      simp only [extendEach, List.map_cons, List.foldl_cons, step] at inductionHypothesis ⊢
      exact inductionHypothesis _

/-- Masked calls succeed and fail as the calls do. -/
theorem outcomes_mask (query : Query) (calls : List QueryCall) :
    query.mask.outcomes (calls.map QueryCall.mask) = query.outcomes calls := by
  induction calls generalizing query with
  | nil => rfl
  | cons call calls inductionHypothesis =>
      rw [List.map_cons, outcomes, outcomes, extend_mask]
      cases query.extend call with
      | error cause => exact congrArg _ (inductionHypothesis query)
      | ok extended => exact congrArg _ (inductionHypothesis extended)

/-! ## Statements -/

theorem mask_joinClause (join : Join) : joinClause join.mask = (joinClause join).mask := by
  simp [joinClause, Join.mask]

theorem fromClause_mask (query : Query) : query.mask.fromClause = query.fromClause.mask := by
  have joined (joins : List Join) :
      (joins.map Join.mask).flatMap joinClause = Fragment.mask (joins.flatMap joinClause) := by
    induction joins with
    | nil => rfl
    | cons join rest inductionHypothesis =>
        simp only [List.map_cons, List.flatMap_cons, inductionHypothesis, mask_joinClause,
          Fragment.mask_append]
  simp [fromClause, joined]

theorem whereClause_mask (query : Query) : query.mask.whereClause = query.whereClause.mask := by
  unfold whereClause mask
  cases query.filter <;> rfl

theorem listClause_mask (word : Keyword) (items : List Fragment) :
    listClause word (items.map Fragment.mask) = (listClause word items).mask := by
  cases items with
  | nil => rfl
  | cons first others => simp [listClause]

theorem groupClause_mask (query : Query) : query.mask.groupClause = query.groupClause.mask :=
  listClause_mask .groupKw query.grouping

theorem orderClause_mask (query : Query) : query.mask.orderClause = query.orderClause.mask :=
  listClause_mask .orderKw query.order

theorem pageClause_mask (query : Query) : query.mask.pageClause = query.pageClause.mask := by
  unfold pageClause mask
  cases query.dialect.paging query.limit query.offset <;> rfl

theorem defaultProjection_mask (query : Query) :
    query.mask.defaultProjection = query.defaultProjection.mask := by
  have columns : query.mask.rootColumns = query.rootColumns.map Fragment.mask := by
    simp [rootColumns]
  rw [defaultProjection, defaultProjection, columns, List.isEmpty_map]
  split
  · rfl
  · exact (Fragment.mask_commas _).symm

theorem effectiveProjection_mask (query : Query) :
    query.mask.effectiveProjection = query.effectiveProjection.mask := by
  rw [effectiveProjection, effectiveProjection, defaultProjection_mask]
  unfold mask
  cases query.projection <;> rfl

theorem selectFragmentOf_mask (query : Query) (projection : Fragment) :
    query.mask.selectFragmentOf projection.mask = (query.selectFragmentOf projection).mask := by
  simp [selectFragmentOf, fromClause_mask, whereClause_mask, groupClause_mask,
    orderClause_mask, pageClause_mask]

theorem rowsFragment_mask (query : Query) : query.mask.rowsFragment = query.rowsFragment.mask := by
  rw [rowsFragment, rowsFragment, effectiveProjection_mask, selectFragmentOf_mask]

theorem countFragment_mask (query : Query) :
    query.mask.countFragment = query.countFragment.mask := by
  simp [countFragment, fromClause_mask, whereClause_mask, groupClause_mask]

theorem keySubquery_mask (query : Query) (key : String) :
    query.mask.keySubquery key = Fragment.mask <$> query.keySubquery key := by
  have rows (place : Place) :
      query.mask.selectFragmentOf (Fragment.named (.place place) keyColumn) =
        (query.selectFragmentOf (Fragment.named (.place place) keyColumn)).mask := by
    rw [← selectFragmentOf_mask, Fragment.mask_named, Fragment.mask_place]
  simp [keySubquery, rows]

end Query
end TypedSql
