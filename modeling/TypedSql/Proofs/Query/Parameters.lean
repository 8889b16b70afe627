import TypedSql.Proofs.Lexer.Placeholders
import TypedSql.Proofs.Query.Statements

/-!
# The bound values of statements

Calls add to the clauses of a query in any order, and statements write the clauses in
an order of their own, not all of them in each statement. The bound values of every
statement are the literals of the calls, in the order in which its text asks for them.
-/

namespace TypedSql

/-- The clauses that values are bound in besides the projection. -/
inductive Clause
  | joins
  | filter
  | grouping
  | order

/-- The values that a call binds in a clause. -/
def QueryCall.binds : Clause → QueryCall → List Value
  | .joins, .join _ _ condition => condition.literals
  | .filter, .filter _ predicate => predicate.literals
  | .grouping, .groupBy expr => expr.literals
  | .order, .orderBy expr _ => expr.literals
  | _, _ => []

/-- The values that a call binds in the projection, if it sets one. -/
def QueryCall.projects? : QueryCall → Option (List Value)
  | .select items => some (Expr.literalsOf items)
  | .selectFragment projection => some projection.parameters
  | _ => none

namespace Query

variable {query extended final : Query}

/-- The values that calls bind in a clause, call by call. -/
def boundIn (clause : Clause) (calls : List QueryCall) : List Value :=
  calls.flatMap (QueryCall.binds clause)

/-- The values that calls bind in the clauses that all statements of a query have. -/
def boundInRows (calls : List QueryCall) : List Value :=
  boundIn .joins calls ++ boundIn .filter calls ++ boundIn .grouping calls

/-- The values that the last call to set a projection binds in it. -/
def boundInProjection (calls : List QueryCall) : List Value :=
  (calls.filterMap QueryCall.projects?).getLast?.getD []

/-! ## Clauses -/

/-- The fragment of a clause. -/
def clause (query : Query) : Clause → Fragment
  | .joins => query.fromClause
  | .filter => query.whereClause
  | .grouping => query.groupClause
  | .order => query.orderClause

@[simp] theorem parameters_joinClause (join : Join) :
    (joinClause join).parameters = join.condition.parameters := by
  simp [joinClause]

@[simp] theorem parameters_fromClause (query : Query) :
    query.fromClause.parameters =
      query.joins.flatMap fun join => join.condition.parameters := by
  simp only [fromClause, Fragment.parameters_token, Fragment.parameters_identifier]
  induction query.joins with
  | nil => rfl
  | cons join rest inductionHypothesis => simp [inductionHypothesis]

@[simp] theorem parameters_whereClause (query : Query) :
    query.whereClause.parameters =
      query.filter.elim [] fun filter => filter.condition.parameters := by
  unfold whereClause
  cases query.filter <;> rfl

@[simp] theorem parameters_listClause (word : Keyword) (items : List Fragment) :
    (listClause word items).parameters = items.flatMap Fragment.parameters := by
  cases items with
  | nil => rfl
  | cons first others => simp [listClause]

@[simp] theorem parameters_groupClause (query : Query) :
    query.groupClause.parameters = query.grouping.flatMap Fragment.parameters :=
  parameters_listClause _ _

@[simp] theorem parameters_orderClause (query : Query) :
    query.orderClause.parameters = query.order.flatMap Fragment.parameters :=
  parameters_listClause _ _

@[simp] theorem parameters_pageClause (query : Query) : query.pageClause.parameters = [] := by
  unfold pageClause
  split <;> rfl

/-! ## Calls -/

theorem parameters_compileProjections
    {scope : Scope}
    {items : List Expr}
    {parts : List Fragment}
    (compiled : compileProjections scope items = .ok parts) :
    parts.flatMap Fragment.parameters = Expr.literalsOf items := by
  have pairs := compileProjections_eq_ok.mp compiled
  clear compiled
  induction pairs with
  | nil => rfl
  | cons first _ inductionHypothesis =>
      rw [List.flatMap_cons, Expr.literalsOf, inductionHypothesis,
        Expr.parameters_compileAt _ _ _ first]

/-- A call binds its values behind those that its clause has, and none in the others. -/
theorem parameters_extend
    {call : QueryCall}
    (reached : query.extend call = .ok extended)
    (clause : Clause) :
    (extended.clause clause).parameters =
      (query.clause clause).parameters ++ call.binds clause := by
  cases call with
  | select items =>
      obtain ⟨_, _, _, rfl⟩ := select_eq_ok.mp reached
      cases clause <;> exact (List.append_nil _).symm
  | filter connective predicate =>
      obtain ⟨condition, compiled, rfl⟩ := filterBy_eq_ok.mp reached
      have added := Expr.parameters_compileAt _ _ _ compiled
      cases clause with
      | filter =>
          cases before : query.filter <;>
            simp [Query.clause, before, Filter.combine, Filter.operand, added, QueryCall.binds,
              Connective.token]
      | _ => exact (List.append_nil _).symm
  | join kind shape condition =>
      obtain ⟨_, compiled, conditionCompiled, rfl⟩ := join_eq_ok.mp reached
      have added := Expr.parameters_compileAt _ _ _ conditionCompiled
      cases clause with
      | joins => simp [Query.clause, added, QueryCall.binds]
      | _ => exact (List.append_nil _).symm
  | orderBy expr direction =>
      obtain ⟨compiled, exprCompiled, rfl⟩ := orderBy_eq_ok.mp reached
      have added := Expr.parameters_compileAt _ _ _ exprCompiled
      cases clause with
      | order => simp [Query.clause, added, QueryCall.binds]
      | _ => exact (List.append_nil _).symm
  | groupBy expr =>
      obtain ⟨compiled, exprCompiled, rfl⟩ := groupBy_eq_ok.mp reached
      have added := Expr.parameters_compileAt _ _ _ exprCompiled
      cases clause with
      | grouping => simp [Query.clause, added, QueryCall.binds]
      | _ => exact (List.append_nil _).symm
  | _ =>
      cases reached
      cases clause <;> exact (List.append_nil _).symm

/-- A call that sets the projection sets its values; other calls keep them. -/
theorem parameters_projection_extend
    {call : QueryCall}
    (reached : query.extend call = .ok extended) :
    extended.projection.elim [] Fragment.parameters =
      call.projects?.getD (query.projection.elim [] Fragment.parameters) := by
  cases call with
  | select items =>
      obtain ⟨parts, compiled, _, rfl⟩ := select_eq_ok.mp reached
      simp [QueryCall.projects?, parameters_compileProjections compiled]
  | filter connective predicate =>
      obtain ⟨_, _, rfl⟩ := filterBy_eq_ok.mp reached
      rfl
  | join kind shape condition =>
      obtain ⟨_, _, _, rfl⟩ := join_eq_ok.mp reached
      rfl
  | orderBy expr direction =>
      obtain ⟨_, _, rfl⟩ := orderBy_eq_ok.mp reached
      rfl
  | groupBy expr =>
      obtain ⟨_, _, rfl⟩ := groupBy_eq_ok.mp reached
      rfl
  | _ =>
      cases reached
      rfl

/-- Calls bind their values in a clause one call after the other. -/
theorem parameters_extendAll
    {calls : List QueryCall}
    (reached : query.extendAll calls = .ok final)
    (clause : Clause) :
    (final.clause clause).parameters =
      (query.clause clause).parameters ++ boundIn clause calls := by
  induction calls generalizing query with
  | nil =>
      cases reached
      exact (List.append_nil _).symm
  | cons call calls inductionHypothesis =>
      obtain ⟨extended, step, later⟩ := extendAll_cons.mp reached
      rw [inductionHypothesis later, parameters_extend step, List.append_assoc]
      rfl

/-- The projection has the values of the last call that sets one. -/
theorem parameters_projection_extendAll
    {calls : List QueryCall}
    (reached : query.extendAll calls = .ok final) :
    final.projection.elim [] Fragment.parameters =
      (calls.filterMap QueryCall.projects?).getLast?.getD
        (query.projection.elim [] Fragment.parameters) := by
  induction calls generalizing query with
  | nil =>
      cases reached
      rfl
  | cons call calls inductionHypothesis =>
      obtain ⟨extended, step, later⟩ := extendAll_cons.mp reached
      rw [inductionHypothesis later, parameters_projection_extend step, List.filterMap_cons]
      cases call.projects? with
      | none => rfl
      | some values => simp [List.getLast?_cons]

/-! ## Statements -/

@[simp] theorem parameters_effectiveProjection (query : Query) :
    query.effectiveProjection.parameters =
      query.projection.elim [] Fragment.parameters := by
  unfold effectiveProjection
  cases query.projection with
  | some projection => rfl
  | none =>
      rw [Option.getD_none, Option.elim_none, defaultProjection]
      split
      · rfl
      · simp [rootColumns, List.flatMap_map]

/-- A select statement binds the values of its projection and then those of the clauses. -/
theorem parameters_selectFragmentOf (query : Query) (projection : Fragment) :
    (query.selectFragmentOf projection).parameters =
      projection.parameters ++ (query.clause .joins).parameters ++
        (query.clause .filter).parameters ++ (query.clause .grouping).parameters ++
          (query.clause .order).parameters := by
  simp [selectFragmentOf, clause]

section Histories

variable
    {dialect : Dialect}
    {root : Shape}
    {calls : List QueryCall}
    (reached : (ofRoot dialect root).extendAll calls = .ok final)

include reached in
/-- On a query without anything in its clauses, these have the values of the calls. -/
theorem parameters_clause (part : Clause) :
    (final.clause part).parameters = boundIn part calls := by
  rw [parameters_extendAll reached]
  cases part <;> rfl

include reached in
theorem parameters_rowsFragment :
    final.rowsFragment.parameters =
      boundInProjection calls ++ boundInRows calls ++ boundIn .order calls := by
  have projected := parameters_projection_extendAll reached
  rw [rowsFragment, parameters_selectFragmentOf, parameters_effectiveProjection, projected]
  simp only [parameters_clause reached, boundInRows, List.append_assoc]
  rfl

include reached in
theorem parameters_countFragment : final.countFragment.parameters = boundInRows calls := by
  have parts : final.countFragment.parameters =
      (final.clause .joins).parameters ++ (final.clause .filter).parameters ++
        (final.clause .grouping).parameters := by
    simp [countFragment, clause]
  rw [parts, parameters_clause reached, parameters_clause reached, parameters_clause reached]
  rfl

include reached in
theorem parameters_keySubquery
    {key : String}
    {keys : Fragment}
    (found : final.keySubquery key = .ok keys) :
    keys.parameters = boundInRows calls ++ boundIn .order calls := by
  obtain ⟨place, _, rfl⟩ := keySubquery_eq_ok.mp found
  have rows : (keysFrom (final.keyRows place)).parameters = (final.keyRows place).parameters := by
    simp [keysFrom]
  rw [rows, keyRows, parameters_selectFragmentOf]
  simp only [parameters_clause reached, boundInRows, Fragment.parameters_named,
    Fragment.parameters_place, List.nil_append]

end Histories

end Query

/-- The statement for children binds the values of the keys that it looks up. -/
theorem Relation.parameters_childHead (relation : Relation) (key : Field) (keys : Fragment) :
    (relation.childHead key ++ keys.parens).parameters = keys.parameters := by
  simp [childHead]

end TypedSql
