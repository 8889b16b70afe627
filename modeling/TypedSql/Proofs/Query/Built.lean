import TypedSql.Proofs.Expr.Pieces
import TypedSql.Proofs.Query.History

/-!
# What queries are built of

The fragments that a query holds are compiled expressions, put together in few ways. A
property that compiled expressions have, and that more tables do not take away, is kept
by every call that compiles what it adds, and so by every history of such calls.
-/

namespace TypedSql

/-- A property that compiled expressions have, and keep when tables are added. -/
structure Fragment.Stable (holds : Scope → Fragment → Prop) : Prop where
  pieces : ∀ scope, Compositional scope (holds scope)
  grows : ∀ scope more fragment, holds scope fragment → holds (scope ++ more) fragment

/-- A fragment with a property, under another name or not. -/
inductive Fragment.Item (holds : Fragment → Prop) : Fragment → Prop
  | plain {fragment : Fragment} (held : holds fragment) : Item holds fragment
  | named {fragment : Fragment} (name : String) (held : holds fragment) :
      Item holds (fragment.named name)

theorem Fragment.Item.imp
    {holds more : Fragment → Prop}
    {item : Fragment}
    (implies : ∀ fragment, holds fragment → more fragment)
    (held : Item holds item) :
    Item more item := by
  cases held with
  | plain held => exact .plain (implies _ held)
  | named name held => exact .named name (implies _ held)

/-- Whether a call compiles what it adds. -/
def QueryCall.isCompiled : QueryCall → Bool
  | .selectFragment _ => false
  | _ => true

namespace Query

variable {query extended final : Query} {holds : Scope → Fragment → Prop}

/-- The fragments of a query have a property over the tables that they may refer to. -/
structure Built (holds : Scope → Fragment → Prop) (query : Query) : Prop where
  aligned : query.Aligned
  projection : ∀ projection, query.projection = some projection →
    ∃ items, items ≠ [] ∧ (∀ item ∈ items, Fragment.Item (holds query.scope) item) ∧
      .commas items = projection
  /-- The condition of a join may refer to its own table and to the tables before it. -/
  joins : ∀ front join back, query.joins = front ++ join :: back →
    holds (query.root :: front.map Join.shape ++ [join.shape]) join.condition
  filter : ∀ filter, query.filter = some filter → holds query.scope filter.condition
  grouping : ∀ item ∈ query.grouping, holds query.scope item
  order : ∀ item ∈ query.order, ∃ inner direction, holds query.scope inner ∧
    inner ++ [.keyword (Direction.keyword direction)] = item

/-! ## Parts -/

/-- The items of a projection, one for each expression. -/
theorem compileProjections_eq_ok
    {scope : Scope}
    {items : List Expr}
    {parts : List Fragment} :
    compileProjections scope items = .ok parts ↔
      List.Forall₂ (fun item part => item.compileProjection scope = .ok part) items parts := by
  induction items generalizing parts with
  | nil =>
      simp only [compileProjections, pure_eq_ok, List.forall₂_nil_left_iff]
      exact eq_comm
  | cons item rest inductionHypothesis =>
      simp only [compileProjections, bind_eq_ok, pure_eq_ok, inductionHypothesis,
        List.forall₂_cons_left_iff]
      constructor
      · rintro ⟨first, compiled, others, othersCompiled, rfl⟩
        exact ⟨first, others, compiled, othersCompiled, rfl⟩
      · rintro ⟨first, others, compiled, othersCompiled, rfl⟩
        exact ⟨first, compiled, others, othersCompiled, rfl⟩

/-- An item of a projection is a compiled expression, under a name or not. -/
theorem item_of_compileProjection
    {scope : Scope}
    {expr : Expr}
    {fragment : Fragment}
    (compiled : expr.compileProjection scope = .ok fragment) :
    Fragment.Item (fun inner => ∃ plain : Expr, plain.compile scope = .ok inner) fragment := by
  unfold Expr.compileProjection at compiled
  cases expr with
  | named inner name =>
      obtain ⟨_, item, itemCompiled, rfl⟩ := Expr.compileAt_named.mp compiled
      exact .named name ⟨inner, itemCompiled⟩
  | _ =>
      rw [Expr.compileAt_nameable scope _ (by simp)] at compiled
      exact .plain ⟨_, compiled⟩

theorem items_of_compileProjections
    {scope : Scope}
    {items : List Expr}
    {parts : List Fragment}
    (stable : Fragment.Stable holds)
    (compiled : compileProjections scope items = .ok parts) :
    ∀ part ∈ parts, Fragment.Item (holds scope) part := by
  refine forall_mem_of_forall₂ (compileProjections_eq_ok.mp compiled) ?_
  intro item _ part itemCompiled
  refine (item_of_compileProjection itemCompiled).imp ?_
  rintro fragment ⟨plain, plainCompiled⟩
  exact plain.holds_compile (stable.pieces scope) fragment plainCompiled

/-- Two filters under a connective are conditions in parentheses or not, and a keyword. -/
theorem holds_combine
    {scope : Scope}
    {left right : Filter}
    (pieces : Fragment.Compositional scope (holds scope))
    (connective : Connective)
    (leftHolds : holds scope left.condition)
    (rightHolds : holds scope right.condition) :
    holds scope (left.combine right connective).condition := by
  have separator : holds scope [.token connective.token] := by
    cases connective <;> exact pieces.keyword _ rfl
  have rightOperand := pieces.parensIf (right.clashes connective) rightHolds
  exact pieces.append _ _ (pieces.parensIf (left.clashes connective) leftHolds)
    (pieces.append [_] _ separator rightOperand)

/-! ## Calls -/

theorem built_ofRoot (dialect : Dialect) (root : Shape) : Built holds (ofRoot dialect root) where
  aligned := aligned_ofRoot dialect root
  projection := by
    intro projection held
    cases held
  joins := by
    intro front join back split
    cases front <;> cases split
  filter := by
    intro filter held
    cases held
  grouping := by
    intro item member
    cases member
  order := by
    intro item member
    cases member

/-- A table with a condition over all tables up to it may be joined. -/
theorem Built.join
    (built : Built holds query)
    (stable : Fragment.Stable holds)
    (join : Join)
    (held : holds (query.scope ++ [join.shape]) join.condition) :
    Built holds ((query.pushTable join.shape).pushJoin join) where
  aligned := built.aligned.join join
  projection := by
    intro projection present
    obtain ⟨items, nonempty, each, shape⟩ := built.projection projection present
    refine ⟨items, nonempty, ?_, shape⟩
    intro item member
    rw [scope_pushJoin, scope_pushTable]
    exact (each item member).imp (stable.grows _ _)
  joins := by
    intro front other back split
    rcases List.eq_nil_or_concat back with rfl | ⟨rest, last, rfl⟩
    · obtain ⟨rfl, last⟩ := List.append_inj' split rfl
      cases last
      rwa [built.aligned.scope_eq] at held
    · rw [List.concat_eq_append, ← List.cons_append, ← List.append_assoc] at split
      exact built.joins front other rest (List.append_inj' split rfl).1
  filter := by
    intro filter present
    rw [scope_pushJoin, scope_pushTable]
    exact stable.grows _ _ _ (built.filter filter present)
  grouping := by
    intro item member
    rw [scope_pushJoin, scope_pushTable]
    exact stable.grows _ _ _ (built.grouping item member)
  order := by
    intro item member
    rw [scope_pushJoin, scope_pushTable]
    obtain ⟨inner, direction, innerHolds, shape⟩ := built.order item member
    exact ⟨inner, direction, stable.grows _ _ _ innerHolds, shape⟩

/-- A call that compiles what it adds keeps what the fragments of a query have. -/
theorem Built.extend
    {call : QueryCall}
    (built : Built holds query)
    (stable : Fragment.Stable holds)
    (isCompiled : call.isCompiled = true)
    (reached : query.extend call = .ok extended) :
    Built holds extended := by
  have pieces := stable.pieces query.scope
  cases call with
  | select items =>
      obtain ⟨parts, compiled, nonempty, rfl⟩ := select_eq_ok.mp reached
      refine { built with projection := ?_ }
      rintro _ ⟨⟩
      exact ⟨parts, nonempty, items_of_compileProjections stable compiled, rfl⟩
  | selectFragment projection => cases isCompiled
  | filter connective predicate =>
      obtain ⟨condition, compiled, rfl⟩ := filterBy_eq_ok.mp reached
      refine { built with filter := ?_ }
      have added := predicate.holds_compile pieces condition compiled
      rintro _ ⟨⟩
      cases before : query.filter with
      | none => exact added
      | some filter => exact holds_combine pieces connective (built.filter filter before) added
  | join kind shape condition =>
      obtain ⟨_, compiled, conditionCompiled, rfl⟩ := join_eq_ok.mp reached
      have held := condition.holds_compile (stable.pieces _) compiled conditionCompiled
      exact built.join stable ⟨kind, shape, compiled⟩ held
  | orderBy expr direction =>
      obtain ⟨compiled, exprCompiled, rfl⟩ := orderBy_eq_ok.mp reached
      have held := expr.holds_compile pieces compiled exprCompiled
      refine { built with order := ?_ }
      intro item member
      rcases List.mem_append.mp member with earlier | added
      · exact built.order item earlier
      · exact ⟨compiled, direction, held, (List.mem_singleton.mp added).symm⟩
  | groupBy expr =>
      obtain ⟨compiled, exprCompiled, rfl⟩ := groupBy_eq_ok.mp reached
      have held := expr.holds_compile pieces compiled exprCompiled
      refine { built with grouping := ?_ }
      intro item member
      rcases List.mem_append.mp member with earlier | added
      · exact built.grouping item earlier
      · rwa [List.mem_singleton.mp added]
  | limit count =>
      cases reached
      exact { built with }
  | offset count =>
      cases reached
      exact { built with }
  | restrict names =>
      cases reached
      exact { built with }

/-- Calls that compile what they add build a query of compiled expressions. -/
theorem built_extendAll
    {dialect : Dialect}
    {root : Shape}
    {calls : List QueryCall}
    (stable : Fragment.Stable holds)
    (compiled : ∀ call ∈ calls, call.isCompiled = true)
    (reached : (ofRoot dialect root).extendAll calls = .ok final) :
    Built holds final := by
  apply extendAll_induction (built_ofRoot dialect root) ?_ reached
  intro call member before after built step
  exact built.extend stable (compiled call member) step

/-- What the condition of a join has, it also has over all tables of the query. -/
theorem Built.condition
    (built : Built holds query)
    (stable : Fragment.Stable holds) :
    ∀ join ∈ query.joins, holds query.scope join.condition := by
  intro join member
  obtain ⟨front, back, split⟩ := List.append_of_mem member
  have tables : query.scope =
      query.root :: front.map Join.shape ++ [join.shape] ++ back.map Join.shape := by
    simp [built.aligned.scope_eq, split]
  rw [tables]
  exact stable.grows _ _ _ (built.joins front join back split)

end Query
end TypedSql
