import TypedSql.Dialect.Vendor
import TypedSql.Proofs.Expr.References
import TypedSql.Proofs.Query.Statements

/-!
# Statements are closed

Every table that a statement refers to is introduced by the same statement, just once,
and has the column that is meant. Conditions of joins do not refer to tables that are
introduced behind them. All that calls do to a query keeps this so, because references
are resolved against the tables that the query has by then.
-/

namespace TypedSql

open Fragment (RefersOnly IntroducesNothing)

/--
A fragment introduces the tables of a scope, and each of its references names a table
that it introduces once and a column that the table has.
-/
structure Fragment.ClosedOver (scope : Scope) (fragment : Fragment) : Prop where
  introduced : fragment.introduced = scope.map Shape.table
  references : ∀ place, fragment.RefersTo place →
    fragment.introduced.count place.table = 1 ∧ scope.Has place

namespace Query

variable {query : Query} {projection : Fragment}

/-- What the fragments of a query refer to and introduce. -/
theorem refersOnly_stable : Fragment.Stable fun scope => RefersOnly scope.Has where
  pieces := Fragment.refersOnly_compositional
  grows _ more _ refers := refers.imp fun _ has => has.append more

theorem introducesNothing_stable : Fragment.Stable fun _ => IntroducesNothing where
  pieces := Fragment.introducesNothing_compositional
  grows _ _ _ nothing := nothing

theorem refersOnly_table
    {accepts : Place → Prop}
    (symbol : Token)
    (introduces : symbol.introduces = true) :
    RefersOnly accepts [.token symbol] := by
  apply Fragment.refersOnly_chunk
  rintro ⟨⟩
  cases introduces

theorem refersOnly_pageClause {accepts : Place → Prop} (query : Query) :
    RefersOnly accepts query.pageClause := by
  unfold pageClause
  split
  · exact Fragment.refersOnly_concatenable.empty
  · exact Fragment.refersOnly_chunk (by simp)

theorem introducesNothing_pageClause (query : Query) : IntroducesNothing query.pageClause := by
  unfold pageClause
  split <;> simp [IntroducesNothing, Chunk.introduces]

/-- A joined table is introduced before those that are joined behind it. -/
theorem introduced_joinClause
    {join : Join}
    (nothing : IntroducesNothing join.condition)
    (back : Fragment) :
    (joinClause join ++ back).introduced = join.shape.table :: Fragment.introduced back := by
  have condition := Fragment.introduced_append nothing back
  cases kind : join.kind <;>
    simp [joinClause, kind, JoinKind.keyword, Fragment.introduced, Fragment.leadingName,
      Chunk.introduces, Token.introduces, condition]

/-- The clause of tables introduces the tables of the query in their order. -/
theorem introduced_fromClause
    {back : Fragment}
    (aligned : query.Aligned)
    (conditions : ∀ join ∈ query.joins, IntroducesNothing join.condition)
    (nothing : IntroducesNothing back) :
    (query.fromClause ++ back).introduced = query.scope.map Shape.table := by
  have joined (joins : List Join) (each : ∀ join ∈ joins, IntroducesNothing join.condition) :
      Fragment.introduced (joins.flatMap joinClause ++ back) =
        joins.map fun join => join.shape.table := by
    induction joins with
    | nil => exact Fragment.introduced_nothing nothing
    | cons join rest inductionHypothesis =>
        have others := inductionHypothesis fun other member =>
          each other (List.mem_cons_of_mem join member)
        have nothing := each join List.mem_cons_self
        rw [List.flatMap_cons, List.append_assoc, introduced_joinClause nothing, others,
          List.map_cons]
  simp [fromClause, aligned.scope_eq, Fragment.introduced, Fragment.leadingName, Chunk.introduces,
    Token.introduces, joined query.joins conditions]

/-! ## Statements -/

section Statements

variable
    (distinct : (query.scope.map Shape.table).Nodup)
    (refers : Built (fun scope => RefersOnly scope.Has) query)
    (nothing : Built (fun _ => IntroducesNothing) query)

/-- Tables with names of their own are introduced once each. -/
theorem closedOver_of_introduced
    {fragment : Fragment}
    (distinct : (query.scope.map Shape.table).Nodup)
    (introduced : fragment.introduced = query.scope.map Shape.table)
    (refers : RefersOnly query.scope.Has fragment) :
    fragment.ClosedOver query.scope where
  introduced := introduced
  references := by
    intro place present
    obtain ⟨shape, member, sameTable, columns⟩ := refers.references place present
    have listed : place.table ∈ query.scope.map Shape.table :=
      List.mem_map.mpr ⟨shape, member, sameTable⟩
    refine ⟨?_, shape, member, sameTable, columns⟩
    rw [introduced, distinct.count, if_pos listed]

include distinct refers nothing in
/-- A select statement is closed if its projection refers to the query's tables only. -/
theorem closed_selectFragmentOf
    (projectionRefers : RefersOnly query.scope.Has projection)
    (projectionNothing : IntroducesNothing projection) :
    (query.selectFragmentOf projection).ClosedOver query.scope := by
  have chunks := Fragment.introducesNothing_concatenable
  apply closedOver_of_introduced distinct
  · -- Only the clause of tables introduces any, whatever stands before and behind it.
    have front := chunks.keyword_cons .selectKw rfl projectionNothing
    have filtered := holds_whereClause nothing chunks
    have grouped := chunks.append _ _ filtered (holds_groupClause nothing chunks)
    have ordered := chunks.append _ _ grouped (holds_orderClause nothing chunks)
    have back := chunks.append _ _ ordered query.introducesNothing_pageClause
    have conditions := nothing.condition introducesNothing_stable
    have shape : query.selectFragmentOf projection =
        (.keyword .selectKw :: projection) ++ (query.fromClause ++
          (query.whereClause ++ query.groupClause ++ query.orderClause ++ query.pageClause)) := by
      simp [selectFragmentOf]
    rw [shape, Fragment.introduced_append front, introduced_fromClause nothing.aligned conditions back]
  · have body := holds_bodyOf refers refersOnly_stable Fragment.refersOnly_concatenable
      refersOnly_table projectionRefers
    exact body.append query.refersOnly_pageClause

include distinct refers nothing in
theorem closed_countFragment : query.countFragment.ClosedOver query.scope := by
  have chunks := Fragment.introducesNothing_concatenable
  apply closedOver_of_introduced distinct
  · have counted := (Fragment.introducesNothing_compositional query.scope).countRows
    have front := chunks.keyword_cons .selectKw rfl counted
    have back := chunks.append _ _ (holds_whereClause nothing chunks)
      (holds_groupClause nothing chunks)
    have conditions := nothing.condition introducesNothing_stable
    have shape : query.countFragment =
        (.keyword .selectKw :: Fragment.countRows) ++
          (query.fromClause ++ (query.whereClause ++ query.groupClause)) := by
      simp [countFragment]
    rw [shape, Fragment.introduced_append front, introduced_fromClause nothing.aligned conditions back]
  · exact holds_countFragment refers refersOnly_stable Fragment.refersOnly_concatenable
      refersOnly_table

include distinct refers nothing in
theorem closed_rowsFragment : query.rowsFragment.ClosedOver query.scope := by
  apply closed_selectFragmentOf distinct refers nothing
  · apply holds_effectiveProjection refers Fragment.refersOnly_concatenable
    intro field member
    have has : query.scope.Has ⟨query.root.table, field.column⟩ :=
      ⟨query.root, List.mem_cons_self, rfl, field, member, rfl⟩
    exact Fragment.refersOnly_place has
  · apply holds_effectiveProjection nothing Fragment.introducesNothing_concatenable
    exact fun field _ => Fragment.introducesNothing_place ⟨query.root.table, field.column⟩

include distinct refers nothing in
theorem closed_projectionInto
    {target : Shape}
    (projected : query.projectionInto target = .ok projection) :
    (query.selectFragmentOf projection).ClosedOver query.scope :=
  closed_selectFragmentOf distinct refers nothing
    (holds_projectionInto refers refersOnly_stable Fragment.refersOnly_concatenable projected)
    (holds_projectionInto nothing introducesNothing_stable
      Fragment.introducesNothing_concatenable projected)

include distinct refers nothing in
theorem closed_keyRows
    {reference : ColumnRef}
    {place : Place}
    (resolved : query.scope.resolve reference = .ok place) :
    (query.keyRows place).ClosedOver query.scope := by
  have has := Scope.has_of_place? (Scope.resolve_eq_ok.mp resolved)
  apply closed_selectFragmentOf distinct refers nothing
  · exact Fragment.refersOnly_concatenable.named keyColumn (Fragment.refersOnly_place has)
  · exact Fragment.introducesNothing_concatenable.named keyColumn
      (Fragment.introducesNothing_place place)

end Statements

/-! ## Histories -/

/-- Calls on a query for one table keep the names of its tables apart. -/
theorem distinct_extendAll
    {dialect : Dialect}
    {root : Shape}
    {calls : List QueryCall}
    {final : Query}
    (reached : (ofRoot dialect root).extendAll calls = .ok final) :
    (final.scope.map Shape.table).Nodup := by
  let motive (query : Query) : Prop := (query.scope.map Shape.table).Nodup
  have start : motive (ofRoot dialect root) := by
    simp [motive]
  refine extendAll_induction (motive := motive) start ?_ reached
  intro call _ before after distinct step
  exact extend_distinct distinct step

/-- The condition of a join refers to no table that is joined behind it. -/
theorem refers_before
    {front back : List Join}
    {join : Join}
    (distinct : (query.scope.map Shape.table).Nodup)
    (refers : Built (fun scope => RefersOnly scope.Has) query)
    (split : query.joins = front ++ join :: back)
    {place : Place}
    (present : join.condition.RefersTo place) :
    Scope.Has (query.root :: front.map Join.shape ++ [join.shape]) place ∧
      ∀ later ∈ back, later.shape.table ≠ place.table := by
  have has := (refers.joins front join back split).references place present
  refine ⟨has, ?_⟩
  intro later member sameTable
  obtain ⟨shape, shapeMember, shapeTable, _⟩ := has
  have tables : query.scope =
      query.root :: front.map Join.shape ++ [join.shape] ++ back.map Join.shape := by
    simp [refers.aligned.scope_eq, split]
  rw [tables, List.map_append, List.nodup_append] at distinct
  apply distinct.2.2 shape.table (List.mem_map_of_mem shapeMember) later.shape.table
  · exact List.mem_map_of_mem (List.mem_map_of_mem member)
  · rw [shapeTable, sameTable]

/--
After calls of which some may have failed, the tables of a query are the root and, one to
one with its joins and in their order, those that were joined, each under a name of its own.
Its statements, whose clause of tables is written from the joins, are closed over the tables.
Conditions of joins refer to no table that was joined later.
-/
theorem statements_closed
    (dialect : Dialect)
    (root : Shape)
    (calls : List QueryCall)
    (final : Query)
    (compiled : ∀ call ∈ calls, call.isCompiled = true)
    (reached : (ofRoot dialect root).extendEach calls = final) :
    (final.scope.map Shape.table).Nodup ∧
      final.tables.root = root ∧
      final.tables.joined = final.joins.map Join.shape ∧
      final.joins.map Join.shape =
        ((ofRoot dialect root).accepted calls).flatMap QueryCall.joined ∧
      (final.toSelect = final.rowsFragment.build dialect ∧
        final.rowsFragment.ClosedOver final.scope) ∧
      (final.toCount = final.countFragment.build dialect ∧
        final.countFragment.ClosedOver final.scope) ∧
      (∀ target statement, final.toSelectInto target = .ok statement →
        ∃ projection, final.projectionInto target = .ok projection ∧
          statement = (final.selectFragmentOf projection).build dialect ∧
          (final.selectFragmentOf projection).ClosedOver final.scope) ∧
      (∀ key keys, final.keySubquery key = .ok keys →
        ∃ place, final.scope.resolve ⟨none, key⟩ = .ok place ∧
          keys = keysFrom (final.keyRows place) ∧
          (final.keyRows place).ClosedOver final.scope) ∧
      ∀ front join back, final.joins = front ++ join :: back →
        ∀ place, join.condition.RefersTo place →
          Scope.Has (root :: front.map Join.shape ++ [join.shape]) place ∧
            ∀ later ∈ back, later.shape.table ≠ place.table := by
  have succeeded := extendAll_accepted (ofRoot dialect root) calls
  rw [reached] at succeeded
  have acceptedCompiled : ∀ call ∈ (ofRoot dialect root).accepted calls,
      call.isCompiled = true := by
    intro call member
    exact compiled call ((accepted_sublist _ calls).subset member)
  have distinct := distinct_extendAll succeeded
  have refers : Built (fun scope => RefersOnly scope.Has) final :=
    built_extendAll refersOnly_stable acceptedCompiled succeeded
  have nothing : Built (fun _ => IntroducesNothing) final :=
    built_extendAll introducesNothing_stable acceptedCompiled succeeded
  obtain ⟨sameDialect, sameRoot⟩ := extendAll_origin succeeded
  have sameDialect : final.dialect = dialect := sameDialect
  have sameRoot : final.root = root := sameRoot
  have aligned := aligned_extendAll succeeded
  have joined := extendAll_tables succeeded
  rw [aligned.scope_eq] at joined
  refine ⟨distinct, sameRoot, aligned, (List.cons.inj joined).2, ?_, ?_, ?_, ?_, ?_⟩
  · exact ⟨by rw [toSelect, sameDialect], closed_rowsFragment distinct refers nothing⟩
  · exact ⟨by rw [toCount, sameDialect], closed_countFragment distinct refers nothing⟩
  · intro target statement stated
    obtain ⟨projection, projected, built⟩ := bind_eq_ok.mp stated
    obtain rfl := pure_eq_ok.mp built
    exact ⟨projection, projected, by rw [sameDialect],
      closed_projectionInto distinct refers nothing projected⟩
  · intro key keys found
    obtain ⟨place, resolved, rfl⟩ := keySubquery_eq_ok.mp found
    exact ⟨place, resolved, rfl, closed_keyRows distinct refers nothing resolved⟩
  · intro front join back split place present
    rw [← sameRoot]
    exact refers_before distinct refers split present

end Query

namespace Sample

/-- The key of a table. -/
def key : Field := ⟨"id", "id", ⟨.integer .signed64, false⟩⟩

/-- A table without references to others. -/
def shelves : Shape := ⟨"shelves", [key, ⟨"label", "Label", ⟨.text, true⟩⟩]⟩

/-- A table that refers to the first one. -/
def volumes : Shape := ⟨"volumes", [key, ⟨"shelf", "shelf_id", ⟨.integer .signed64, false⟩⟩]⟩

/-- A table that refers to the second one. -/
def loans : Shape := ⟨"loans", [⟨"volume", "volume_id", ⟨.integer .signed64, false⟩⟩]⟩

/-- Joins of tables, the second twice and the third too early, and a condition too early. -/
def lending : List QueryCall :=
  [.filter .and (.nullTest (.col "volume") true),
   .join .left loans (.binary .eq (.col "volume") (.colOf "volumes" "id")),
   .join .inner volumes (.binary .eq (.col "shelf") (.colOf "shelves" "id")),
   .join .left volumes .countRows,
   .join .left loans (.binary .eq (.col "volume") (.colOf "volumes" "id")),
   .filter .and (.nullTest (.col "volume") true),
   .groupBy (.col "label")]

/-- The query after the calls. -/
def lent : Query := (Query.ofRoot Vendor.sqlite.dialect shelves).extendEach lending

end Sample

/-- Calls three of which fail, and what the last join refers to. -/
theorem Query.statements_closed_lending :
    (∀ call ∈ Sample.lending, call.isCompiled = true) ∧
      Sample.lent.tables.joined = [Sample.volumes, Sample.loans] ∧
      Sample.lent.joins.map Join.shape = [Sample.volumes, Sample.loans] ∧
      (Sample.lent.scope.map Shape.table).Nodup ∧
      Sample.lent.toSelect = Sample.lent.rowsFragment.build Vendor.sqlite.dialect ∧
      Sample.lent.rowsFragment.introduced = ["shelves", "volumes", "loans"] ∧
      Sample.lent.rowsFragment.ClosedOver Sample.lent.scope ∧
      ∃ join, Sample.lent.joins[0]? = some join ∧
        ∀ place, join.condition.RefersTo place → "loans" ≠ place.table := by
  have compiled : ∀ call ∈ Sample.lending, call.isCompiled = true := by decide
  obtain ⟨distinct, _, aligned, joined, ⟨stated, closed⟩, _, _, _, conditions⟩ :=
    statements_closed Vendor.sqlite.dialect Sample.shelves Sample.lending Sample.lent compiled rfl
  obtain ⟨first, second, split⟩ : ∃ first second, Sample.lent.joins = [first, second] :=
    ⟨_, _, rfl⟩
  refine ⟨compiled, aligned.trans joined, joined, distinct, stated, closed.introduced, closed,
    first, ?_, ?_⟩
  · rw [split]
    rfl
  · intro place present
    have later := (conditions [] first [second] split place present).2 second List.mem_cons_self
    have table : second.shape.table = "loans" := by
      rw [split] at joined
      exact congrArg Shape.table (List.cons.inj (List.cons.inj joined).2).1
    rwa [table] at later

end TypedSql
