import TypedSql.Proofs.Expr.Compile
import TypedSql.Query.History

/-!
# Queries and the calls that led to them

What one call changes of a query, and from that what a history of calls changes:
the tables of a query only ever grow in number, and its filter changes only where
a condition is added.
-/

namespace TypedSql

/-- The condition that a call adds, and its connective. -/
def QueryCall.filter? : QueryCall → Option (Connective × Expr)
  | .filter connective predicate => some (connective, predicate)
  | _ => none

/-- The tables that a call joins. -/
def QueryCall.joined : QueryCall → List Shape
  | .join _ shape _ => [shape]
  | _ => []

namespace Query

variable {query extended final : Query}

/-- The tables behind the root are those that the joins introduce, one to one and in order. -/
def Aligned (query : Query) : Prop :=
  query.tables.joined = query.joins.map Join.shape

theorem aligned_ofRoot (dialect : Dialect) (root : Shape) : (ofRoot dialect root).Aligned :=
  rfl

theorem Aligned.scope_eq (aligned : query.Aligned) :
    query.scope = query.root :: query.joins.map Join.shape :=
  congrArg (query.root :: ·) aligned

/-! ## One call -/

theorem select_eq_ok {items : List Expr} :
    query.select items = .ok extended ↔
      ∃ parts, compileProjections query.scope items = .ok parts ∧
        parts ≠ [] ∧ { query with projection := some (.commas parts) } = extended := by
  simp only [select, bind_eq_ok, check_bind_eq_ok, pure_eq_ok, List.isEmpty_iff]

theorem filterBy_eq_ok
    {connective : Connective}
    {predicate : Expr} :
    query.filterBy connective predicate = .ok extended ↔
      ∃ condition, predicate.compile query.scope = .ok condition ∧
        { query with
          filter := some (query.filter.elim ⟨condition, predicate.topConnective?⟩
            (Filter.combine · ⟨condition, predicate.topConnective?⟩ connective)) } =
          extended := by
  simp only [filterBy, bind_eq_ok, pure_eq_ok]
  cases query.filter <;> rfl

theorem join_eq_ok
    {kind : JoinKind}
    {shape : Shape}
    {condition : Expr} :
    query.join kind shape condition = .ok extended ↔
      query.reads shape.table = false ∧
        ∃ compiled, condition.compile (query.scope ++ [shape]) = .ok compiled ∧
          (query.pushTable shape).pushJoin ⟨kind, shape, compiled⟩ = extended := by
  simp only [join, bind_eq_ok, check_bind_eq_ok, pure_eq_ok, Bool.not_eq_true, scope_pushTable]

theorem orderBy_eq_ok
    {expr : Expr}
    {direction : Direction} :
    query.orderBy expr direction = .ok extended ↔
      ∃ compiled, expr.compile query.scope = .ok compiled ∧
        { query with
          order := query.order ++ [compiled ++ [.keyword direction.keyword]] } =
          extended := by
  simp only [orderBy, bind_eq_ok, pure_eq_ok]

theorem groupBy_eq_ok {expr : Expr} :
    query.groupBy expr = .ok extended ↔
      ∃ compiled, expr.compile query.scope = .ok compiled ∧
        { query with grouping := query.grouping ++ [compiled] } = extended := by
  simp only [groupBy, bind_eq_ok, pure_eq_ok]

/-- What a call may change besides the tables and the filter leaves both as they are. -/
theorem extend_frame
    {call : QueryCall}
    (noFilter : call.filter? = none)
    (noJoin : ∀ kind shape condition, call ≠ .join kind shape condition)
    (reached : query.extend call = .ok extended) :
    extended.scope = query.scope ∧ extended.filter = query.filter := by
  cases call with
  | filter connective predicate => cases noFilter
  | join kind shape condition => exact absurd rfl (noJoin kind shape condition)
  | select items =>
      obtain ⟨_, _, _, rfl⟩ := select_eq_ok.mp reached
      exact ⟨rfl, rfl⟩
  | orderBy expr direction =>
      obtain ⟨_, _, rfl⟩ := orderBy_eq_ok.mp reached
      exact ⟨rfl, rfl⟩
  | groupBy expr =>
      obtain ⟨_, _, rfl⟩ := groupBy_eq_ok.mp reached
      exact ⟨rfl, rfl⟩
  | _ =>
      cases reached
      exact ⟨rfl, rfl⟩

/-- A call keeps the dialect and the root table of a query. -/
theorem extend_origin
    {call : QueryCall}
    (reached : query.extend call = .ok extended) :
    extended.dialect = query.dialect ∧ extended.root = query.root := by
  cases call with
  | select items =>
      obtain ⟨_, _, _, rfl⟩ := select_eq_ok.mp reached
      exact ⟨rfl, rfl⟩
  | filter connective predicate =>
      obtain ⟨_, _, rfl⟩ := filterBy_eq_ok.mp reached
      exact ⟨rfl, rfl⟩
  | join kind shape condition =>
      obtain ⟨_, _, _, rfl⟩ := join_eq_ok.mp reached
      exact ⟨rfl, rfl⟩
  | orderBy expr direction =>
      obtain ⟨_, _, rfl⟩ := orderBy_eq_ok.mp reached
      exact ⟨rfl, rfl⟩
  | groupBy expr =>
      obtain ⟨_, _, rfl⟩ := groupBy_eq_ok.mp reached
      exact ⟨rfl, rfl⟩
  | _ =>
      cases reached
      exact ⟨rfl, rfl⟩

/-- A call keeps the tables of a query and puts those that it joins behind them. -/
theorem extend_tables
    {call : QueryCall}
    (reached : query.extend call = .ok extended) :
    extended.scope = query.scope ++ call.joined := by
  cases call with
  | filter connective predicate =>
      obtain ⟨_, _, rfl⟩ := filterBy_eq_ok.mp reached
      exact (List.append_nil _).symm
  | join kind shape condition =>
      obtain ⟨_, _, _, rfl⟩ := join_eq_ok.mp reached
      simp [QueryCall.joined]
  | _ =>
      obtain ⟨sameScope, _⟩ := extend_frame rfl (by simp) reached
      rw [sameScope]
      exact (List.append_nil _).symm

/-- The tables of a query keep having names of their own. -/
theorem extend_distinct
    {call : QueryCall}
    (distinct : (query.scope.map Shape.table).Nodup)
    (reached : query.extend call = .ok extended) :
    (extended.scope.map Shape.table).Nodup := by
  rw [extend_tables reached]
  cases call with
  | join kind shape condition =>
      obtain ⟨unread, _⟩ := join_eq_ok.mp reached
      have absent : shape.table ∉ query.scope.map Shape.table := by
        simpa [reads] using unread
      simpa [QueryCall.joined, List.nodup_append, distinct] using absent
  | _ => simpa [QueryCall.joined] using distinct

/-- A joined table is put behind the tables and its join behind the joins. -/
theorem Aligned.join (aligned : query.Aligned) (join : Join) :
    ((query.pushTable join.shape).pushJoin join).Aligned := by
  change query.tables.joined ++ [join.shape] = (query.joins ++ [join]).map Join.shape
  rw [List.map_append, aligned, List.map_singleton]

/-- A call keeps the tables of a query in step with its joins. -/
theorem Aligned.extend
    {call : QueryCall}
    (aligned : query.Aligned)
    (reached : query.extend call = .ok extended) :
    extended.Aligned := by
  cases call with
  | select items =>
      obtain ⟨_, _, _, rfl⟩ := select_eq_ok.mp reached
      exact aligned
  | filter connective predicate =>
      obtain ⟨_, _, rfl⟩ := filterBy_eq_ok.mp reached
      exact aligned
  | join kind shape condition =>
      obtain ⟨_, compiled, _, rfl⟩ := join_eq_ok.mp reached
      exact aligned.join ⟨kind, shape, compiled⟩
  | orderBy expr direction =>
      obtain ⟨_, _, rfl⟩ := orderBy_eq_ok.mp reached
      exact aligned
  | groupBy expr =>
      obtain ⟨_, _, rfl⟩ := groupBy_eq_ok.mp reached
      exact aligned
  | _ =>
      cases reached
      exact aligned

/-- A call that adds no condition keeps the filter of a query. -/
theorem extend_filter
    {call : QueryCall}
    (noFilter : call.filter? = none)
    (reached : query.extend call = .ok extended) :
    extended.filter = query.filter := by
  cases call with
  | filter connective predicate => cases noFilter
  | join kind shape condition =>
      obtain ⟨_, _, _, rfl⟩ := join_eq_ok.mp reached
      rfl
  | _ => exact (extend_frame noFilter (by simp) reached).2

/-! ## Many calls -/

theorem extendAll_cons
    {call : QueryCall}
    {calls : List QueryCall} :
    query.extendAll (call :: calls) = .ok final ↔
      ∃ extended, query.extend call = .ok extended ∧ extended.extendAll calls = .ok final := by
  rw [extendAll]
  cases query.extend call with
  | error cause => simp
  | ok extended =>
      cases later : extended.extendAll calls with
      | error failure => simp [later, Except.mapError]
      | ok reached => simp [later, Except.mapError]

/-- Calls keep the tables of a query and put those that they join behind them. -/
theorem extendAll_tables
    {calls : List QueryCall}
    (reached : query.extendAll calls = .ok final) :
    final.scope = query.scope ++ calls.flatMap QueryCall.joined := by
  induction calls generalizing query with
  | nil =>
      cases reached
      exact (List.append_nil _).symm
  | cons call calls inductionHypothesis =>
      obtain ⟨extended, step, later⟩ := extendAll_cons.mp reached
      rw [inductionHypothesis later, extend_tables step, List.append_assoc, List.flatMap_cons]

/-- What the start has and every possible call keeps, the query after the calls has. -/
theorem extendAll_induction
    {motive : Query → Prop}
    {calls : List QueryCall}
    (start : motive query)
    (step : ∀ call ∈ calls, ∀ before after : Query,
      motive before → before.extend call = .ok after → motive after)
    (reached : query.extendAll calls = .ok final) :
    motive final := by
  induction calls generalizing query with
  | nil =>
      cases reached
      exact start
  | cons call calls inductionHypothesis =>
      obtain ⟨extended, first, later⟩ := extendAll_cons.mp reached
      apply inductionHypothesis (step call List.mem_cons_self query extended start first) ?_ later
      intro other member
      exact step other (List.mem_cons_of_mem call member)

/-- Calls on a query for one table keep its tables in step with its joins. -/
theorem aligned_extendAll
    {dialect : Dialect}
    {root : Shape}
    {calls : List QueryCall}
    (reached : (ofRoot dialect root).extendAll calls = .ok final) :
    final.Aligned := by
  apply extendAll_induction (aligned_ofRoot dialect root) ?_ reached
  intro call _ before after aligned step
  exact aligned.extend step

/-- Calls keep the dialect and the root table of a query. -/
theorem extendAll_origin
    {calls : List QueryCall}
    (reached : query.extendAll calls = .ok final) :
    final.dialect = query.dialect ∧ final.root = query.root := by
  let motive (other : Query) : Prop := other.dialect = query.dialect ∧ other.root = query.root
  apply extendAll_induction (motive := motive) ⟨rfl, rfl⟩ ?_ reached
  intro call _ before after same step
  obtain ⟨sameDialect, sameRoot⟩ := extend_origin step
  exact ⟨sameDialect.trans same.1, sameRoot.trans same.2⟩

/-! ## Calls some of which are not possible -/

/-- The query after calls; those that are not possible change nothing. -/
def extendEach (query : Query) (calls : List QueryCall) : Query :=
  calls.foldl extendOrKeep query

/-- What comes of calls one by one: nothing, or why a call is not possible. -/
def outcomes (query : Query) : List QueryCall → List (Option CompileError)
  | [] => []
  | call :: rest =>
      match query.extend call with
      | .ok extended => none :: outcomes extended rest
      | .error cause => some cause :: outcomes query rest

/-- The calls that are possible, each on the query that those before it led to. -/
def accepted (query : Query) : List QueryCall → List QueryCall
  | [] => []
  | call :: rest =>
      match query.extend call with
      | .ok extended => call :: accepted extended rest
      | .error _ => accepted query rest

theorem accepted_sublist (query : Query) (calls : List QueryCall) :
    (query.accepted calls).Sublist calls := by
  induction calls generalizing query with
  | nil => exact List.Sublist.slnil
  | cons call calls inductionHypothesis =>
      rw [accepted]
      cases query.extend call with
      | ok extended => exact (inductionHypothesis extended).cons_cons call
      | error cause => exact (inductionHypothesis query).cons call

/-- Calls lead to the query to which the possible ones among them lead. -/
theorem extendAll_accepted (query : Query) (calls : List QueryCall) :
    query.extendAll (query.accepted calls) = .ok (query.extendEach calls) := by
  induction calls generalizing query with
  | nil => rfl
  | cons call calls inductionHypothesis =>
      rw [accepted, extendEach, List.foldl_cons, extendOrKeep]
      cases step : query.extend call with
      | ok extended => exact extendAll_cons.mpr ⟨extended, step, inductionHypothesis extended⟩
      | error cause => exact inductionHypothesis query

end Query
end TypedSql
