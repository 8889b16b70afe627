import TypedSql.Dialect.Vendor
import TypedSql.Proofs.Query.Built
import TypedSql.Proofs.Query.Closed
import TypedSql.Query.Emit

/-!
# The order of independent calls

A call changes one part of a query. What it compiles depends on the tables that the
query has by then, but more tables change nothing for what compiles without them. So
two calls that change different parts may change places, and only the order of the
calls that change the same part matters for the query to which calls lead.
-/

namespace TypedSql

/-- The parts of a query, each of which calls change alone. -/
inductive QueryPart
  | projection
  | filter
  | joins
  | order
  | grouping
  | limit
  | offset
  | only
  deriving DecidableEq

/-- What a call does to a query once its expressions are compiled. -/
inductive QueryChange
  | projection (projection : Fragment)
  | filter (connective : Connective) (added : Filter)
  | join (join : Join)
  | order (item : Fragment)
  | grouping (item : Fragment)
  | limit (count : UInt64)
  | offset (count : UInt64)
  | only (names : List String)

/-- The part of a query that a call changes. -/
def QueryCall.part : QueryCall → QueryPart
  | .select _ => .projection
  | .selectFragment _ => .projection
  | .filter .. => .filter
  | .join .. => .joins
  | .orderBy .. => .order
  | .groupBy _ => .grouping
  | .limit _ => .limit
  | .offset _ => .offset
  | .restrict _ => .only

/-- The part of a query that a change is to. -/
def QueryChange.part : QueryChange → QueryPart
  | .projection _ => .projection
  | .filter .. => .filter
  | .join _ => .joins
  | .order _ => .order
  | .grouping _ => .grouping
  | .limit _ => .limit
  | .offset _ => .offset
  | .only _ => .only

/-- The change to which a call compiles against the tables of a scope. -/
inductive QueryCall.CompilesTo (scope : Scope) : QueryCall → QueryChange → Prop
  | select {items : List Expr} {parts : List Fragment}
      (compiled : Query.compileProjections scope items = .ok parts)
      (nonempty : parts ≠ []) :
      CompilesTo scope (.select items) (.projection (.commas parts))
  | selectFragment (projection : Fragment) :
      CompilesTo scope (.selectFragment projection) (.projection projection)
  | filter {predicate : Expr} {condition : Fragment} (connective : Connective)
      (compiled : predicate.compile scope = .ok condition) :
      CompilesTo scope (.filter connective predicate)
        (.filter connective ⟨condition, predicate.topConnective?⟩)
  | join {condition : Expr} {fragment : Fragment} (kind : JoinKind) (shape : Shape)
      (compiled : condition.compile scope = .ok fragment) :
      CompilesTo scope (.join kind shape condition) (.join ⟨kind, shape, fragment⟩)
  | orderBy {expr : Expr} {fragment : Fragment} (direction : Direction)
      (compiled : expr.compile scope = .ok fragment) :
      CompilesTo scope (.orderBy expr direction)
        (.order (fragment ++ [.keyword direction.keyword]))
  | groupBy {expr : Expr} {fragment : Fragment}
      (compiled : expr.compile scope = .ok fragment) :
      CompilesTo scope (.groupBy expr) (.grouping fragment)
  | limit (count : UInt64) : CompilesTo scope (.limit count) (.limit count)
  | offset (count : UInt64) : CompilesTo scope (.offset count) (.offset count)
  | restrict (names : List String) : CompilesTo scope (.restrict names) (.only names)

/-- Items of a projection that compile compile alike when tables are added. -/
theorem Query.compileProjections_append
    {scope : Scope}
    {items : List Expr}
    {parts : List Fragment}
    (compiled : compileProjections scope items = .ok parts)
    (more : Scope) :
    compileProjections (scope ++ more) items = .ok parts := by
  rw [compileProjections_eq_ok] at compiled ⊢
  refine compiled.imp ?_
  intro item part itemCompiled
  exact item.compileAt_append more true part itemCompiled

namespace QueryCall

variable {scope : Scope} {call : QueryCall} {change : QueryChange}

theorem CompilesTo.part_eq (compiles : call.CompilesTo scope change) :
    change.part = call.part := by
  cases compiles <;> rfl

/-- More tables change nothing for a call that compiles without them. -/
theorem CompilesTo.append (compiles : call.CompilesTo scope change) (more : Scope) :
    call.CompilesTo (scope ++ more) change := by
  cases compiles with
  | select compiled nonempty =>
      exact .select (Query.compileProjections_append compiled more) nonempty
  | selectFragment projection => exact .selectFragment projection
  | filter connective compiled =>
      exact .filter connective (Expr.compileAt_append more _ _ _ compiled)
  | join kind shape compiled =>
      exact .join kind shape (Expr.compileAt_append more _ _ _ compiled)
  | orderBy direction compiled =>
      exact .orderBy direction (Expr.compileAt_append more _ _ _ compiled)
  | groupBy compiled => exact .groupBy (Expr.compileAt_append more _ _ _ compiled)
  | limit count => exact .limit count
  | offset count => exact .offset count
  | restrict names => exact .restrict names

/-- Of two calls that change different parts, at most one joins a table. -/
theorem joined_eq_nil
    {first second : QueryCall}
    (apart : first.part ≠ second.part) :
    first.joined = [] ∨ second.joined = [] := by
  cases first with
  | join kind shape condition =>
      right
      cases second with
      | join => exact absurd rfl apart
      | _ => rfl
  | _ => exact .inl rfl

end QueryCall

namespace Query

variable {query left right final : Query}

/-- The query with a change. -/
def change (query : Query) : QueryChange → Query
  | .projection projection => { query with projection := some projection }
  | .filter connective added =>
      { query with filter := some (query.filter.elim added (·.combine added connective)) }
  | .join join => (query.pushTable join.shape).pushJoin join
  | .order item => { query with order := query.order ++ [item] }
  | .grouping item => { query with grouping := query.grouping ++ [item] }
  | .limit count => query.withLimit count
  | .offset count => query.withOffset count
  | .only names => query.restrict names

/-- Changes to different parts may change places. -/
theorem change_comm
    (query : Query)
    {first second : QueryChange}
    (apart : first.part ≠ second.part) :
    (query.change first).change second = (query.change second).change first := by
  cases first <;> cases second <;>
    first
    | rfl
    | exact absurd rfl apart

/-- A call is a change to which it compiles, unless it joins a table that is read already. -/
theorem extend_eq_ok {call : QueryCall} {extended : Query} :
    query.extend call = .ok extended ↔
      (∀ shape ∈ call.joined, query.reads shape.table = false) ∧
        ∃ change, call.CompilesTo (query.scope ++ call.joined) change ∧
          query.change change = extended := by
  have alone (noTable : call.joined = []) :
      ((∀ shape ∈ call.joined, query.reads shape.table = false) ∧
        ∃ change, call.CompilesTo (query.scope ++ call.joined) change ∧
          query.change change = extended) ↔
        ∃ change, call.CompilesTo query.scope change ∧ query.change change = extended := by
    simp [noTable]
  cases call with
  | join kind shape condition =>
      rw [extend, join_eq_ok]
      constructor
      · rintro ⟨unread, fragment, compiled, rfl⟩
        exact ⟨by simpa [QueryCall.joined] using unread, _, .join kind shape compiled, rfl⟩
      · rintro ⟨unread, change, compiles, rfl⟩
        cases compiles with
        | join _ _ compiled => exact ⟨unread shape List.mem_cons_self, _, compiled, rfl⟩
  | select items =>
      rw [alone rfl, extend, select_eq_ok]
      constructor
      · rintro ⟨parts, compiled, nonempty, rfl⟩
        exact ⟨_, .select compiled nonempty, rfl⟩
      · rintro ⟨change, compiles, rfl⟩
        cases compiles with
        | select compiled nonempty => exact ⟨_, compiled, nonempty, rfl⟩
  | filter connective predicate =>
      rw [alone rfl, extend, filterBy_eq_ok]
      constructor
      · rintro ⟨condition, compiled, rfl⟩
        exact ⟨_, .filter connective compiled, rfl⟩
      · rintro ⟨change, compiles, rfl⟩
        cases compiles with
        | filter _ compiled => exact ⟨_, compiled, rfl⟩
  | orderBy expr direction =>
      rw [alone rfl, extend, orderBy_eq_ok]
      constructor
      · rintro ⟨fragment, compiled, rfl⟩
        exact ⟨_, .orderBy direction compiled, rfl⟩
      · rintro ⟨change, compiles, rfl⟩
        cases compiles with
        | orderBy _ compiled => exact ⟨_, compiled, rfl⟩
  | groupBy expr =>
      rw [alone rfl, extend, groupBy_eq_ok]
      constructor
      · rintro ⟨fragment, compiled, rfl⟩
        exact ⟨_, .groupBy compiled, rfl⟩
      · rintro ⟨change, compiles, rfl⟩
        cases compiles with
        | groupBy compiled => exact ⟨_, compiled, rfl⟩
  | _ =>
      -- The other calls compile nothing, so each has one change and is always possible.
      rw [alone rfl]
      constructor
      · rintro ⟨⟩
        exact ⟨_, by constructor, rfl⟩
      · rintro ⟨change, ⟨⟩, rfl⟩
        rfl

/-! ## Two calls -/

/-- A possible call stays possible, as the same change, after a call to another part. -/
theorem extend_after
    {first second : QueryCall}
    {change : QueryChange}
    (apart : first.part ≠ second.part)
    (reached : query.extend first = .ok left)
    (unread : ∀ shape ∈ second.joined, query.reads shape.table = false)
    (compiles : second.CompilesTo (query.scope ++ second.joined) change) :
    left.extend second = .ok (left.change change) := by
  have tables := extend_tables reached
  rw [extend_eq_ok]
  rcases QueryCall.joined_eq_nil apart with noTable | noTable
  · rw [noTable, List.append_nil] at tables
    refine ⟨?_, change, ?_, rfl⟩
    · intro shape member
      rw [reads, tables]
      exact unread shape member
    · rwa [tables]
  · refine ⟨by simp [noTable], change, ?_, rfl⟩
    rw [noTable, List.append_nil] at compiles ⊢
    rw [tables]
    exact compiles.append first.joined

/-- Two possible calls to different parts lead to the same query in either order. -/
theorem extend_comm
    {first second : QueryCall}
    (apart : first.part ≠ second.part)
    (reachedFirst : query.extend first = .ok left)
    (reachedSecond : query.extend second = .ok right) :
    ∃ both, left.extend second = .ok both ∧ right.extend first = .ok both := by
  obtain ⟨unreadFirst, firstChange, firstCompiles, rfl⟩ := extend_eq_ok.mp reachedFirst
  obtain ⟨unreadSecond, secondChange, secondCompiles, rfl⟩ := extend_eq_ok.mp reachedSecond
  refine ⟨_, extend_after apart reachedFirst unreadSecond secondCompiles, ?_⟩
  rw [extend_after apart.symm reachedSecond unreadFirst firstCompiles]
  have changesApart : secondChange.part ≠ firstChange.part := by
    rw [firstCompiles.part_eq, secondCompiles.part_eq]
    exact apart.symm
  rw [query.change_comm changesApart]

/-! ## Many calls -/

/-- A call that is possible at once may be made before calls to other parts. -/
theorem extendAll_front
    {call : QueryCall}
    {before after : List QueryCall}
    (apart : ∀ other ∈ before, other.part ≠ call.part)
    (possible : query.extend call = .ok left)
    (reached : query.extendAll (before ++ call :: after) = .ok final) :
    left.extendAll (before ++ after) = .ok final := by
  induction before generalizing query left with
  | nil =>
      obtain ⟨extended, step, later⟩ := extendAll_cons.mp reached
      obtain rfl := Except.ok.inj (possible.symm.trans step)
      exact later
  | cons other before inductionHypothesis =>
      obtain ⟨extended, step, later⟩ := extendAll_cons.mp reached
      obtain ⟨both, callAfter, otherAfter⟩ :=
        extend_comm (apart other List.mem_cons_self) step possible
      refine extendAll_cons.mpr ⟨both, otherAfter, ?_⟩
      apply inductionHypothesis ?_ callAfter later
      intro another member
      exact apart another (List.mem_cons_of_mem other member)

/--
Calls in another order, in which those that change the same part of a query have kept
the order among themselves.
-/
structure Rearranges (first second : List QueryCall) : Prop where
  permutes : first.Perm second
  keepsOrder : ∀ part, first.filter (·.part = part) = second.filter (·.part = part)

/-- Only the order of the calls that change the same part matters. -/
theorem eq_of_extendAll
    {first second : List QueryCall}
    (keepsOrder : ∀ part, first.filter (·.part = part) = second.filter (·.part = part))
    (reachedFirst : query.extendAll first = .ok left)
    (reachedSecond : query.extendAll second = .ok right) :
    left = right := by
  -- The first call of one list stands in the other one behind calls to other parts.
  induction first generalizing query second with
  | nil =>
      obtain rfl : second = [] := by
        cases second with
        | nil => rfl
        | cons call rest => simpa using keepsOrder call.part
      exact Except.ok.inj (reachedFirst.symm.trans reachedSecond)
  | cons call rest inductionHypothesis =>
      obtain ⟨extended, step, later⟩ := extendAll_cons.mp reachedFirst
      have own := keepsOrder call.part
      rw [List.filter_cons_of_pos (by simp), eq_comm, List.filter_eq_cons_iff] at own
      obtain ⟨before, after, rfl, others, _, own⟩ := own
      have apart : ∀ other ∈ before, other.part ≠ call.part := by simpa using others
      apply inductionHypothesis ?_ later (extendAll_front apart step reachedSecond)
      intro part
      have same := keepsOrder part
      by_cases samePart : call.part = part
      · subst samePart
        rw [List.filter_append, List.filter_eq_nil_iff.mpr others, List.nil_append, own]
      · rw [List.filter_cons_of_neg (by simpa using samePart), List.filter_append,
          List.filter_cons_of_neg (by simpa using samePart), ← List.filter_append] at same
        exact same

/--
Calls and the same calls in another order, in which those that change the same part of
a query have kept theirs, lead to queries with the same statements, if all calls are
possible in both orders. Columns and expressions keep their meaning in larger scopes.
-/
theorem statements_rearranged
    (query left right : Query)
    (first second : List QueryCall)
    (rearranges : Rearranges first second)
    (reachedFirst : query.extendAll first = .ok left)
    (reachedSecond : query.extendAll second = .ok right) :
    left.toSelect = right.toSelect ∧
      left.toCount = right.toCount ∧
      left.toRowCount = right.toRowCount ∧
      (∀ target, left.toSelectInto target = right.toSelectInto target) ∧
      (∀ shapes, left.toMultiSelect shapes = right.toMultiSelect shapes) ∧
      ∀ scope larger : Scope, scope <+: larger →
        (∀ reference place, scope.resolve reference = .ok place →
          larger.resolve reference = .ok place) ∧
        ∀ (expr : Expr) (fragment : Fragment),
          (expr.compile scope = .ok fragment → expr.compile larger = .ok fragment) ∧
          (expr.compileProjection scope = .ok fragment →
            expr.compileProjection larger = .ok fragment) := by
  obtain rfl := eq_of_extendAll rearranges.keepsOrder reachedFirst reachedSecond
  refine ⟨rfl, rfl, rfl, fun _ => rfl, fun _ => rfl, ?_⟩
  rintro scope _ ⟨more, rfl⟩
  refine ⟨?_, ?_⟩
  · intro reference place resolved
    exact Scope.resolve_append resolved more
  · intro expr fragment
    exact ⟨expr.compileAt_append more false fragment, expr.compileAt_append more true fragment⟩

end Query

namespace Sample

/-- Calls about the shelves; two tables have a column named `id`. -/
def labelled : List QueryCall :=
  [.filter .and (.nullTest (.col "label") true), .select [.col "id"],
   .filter .or (.binary .gt (.col "id") (.literal (.integer 7)))]

/-- Calls about the volumes on the shelves. -/
def shelved : List QueryCall :=
  [.join .inner volumes (.binary .eq (.col "shelf") (.colOf "shelves" "id")),
   .orderBy (.col "shelf") .descending, .limit 3]

/-- The query for the shelves after calls. -/
def shelvesAfter (calls : List QueryCall) : Query :=
  (Query.ofRoot Vendor.sqlite.dialect shelves).extendEach calls

end Sample

/-- Conditions and a projection on the root, before and after another table is joined. -/
theorem Query.statements_rearranged_shelves :
    Rearranges (Sample.labelled ++ Sample.shelved) (Sample.shelved ++ Sample.labelled) ∧
      (Query.ofRoot Vendor.sqlite.dialect Sample.shelves).extendAll
          (Sample.labelled ++ Sample.shelved) =
        .ok (Sample.shelvesAfter (Sample.labelled ++ Sample.shelved)) ∧
      (Query.ofRoot Vendor.sqlite.dialect Sample.shelves).extendAll
          (Sample.shelved ++ Sample.labelled) =
        .ok (Sample.shelvesAfter (Sample.shelved ++ Sample.labelled)) ∧
      (Sample.shelvesAfter (Sample.labelled ++ Sample.shelved)).toSelect =
        (Sample.shelvesAfter (Sample.shelved ++ Sample.labelled)).toSelect ∧
      (Sample.shelvesAfter (Sample.labelled ++ Sample.shelved)).toMultiSelect
          [Sample.volumes, Sample.shelves] =
        (Sample.shelvesAfter (Sample.shelved ++ Sample.labelled)).toMultiSelect
          [Sample.volumes, Sample.shelves] ∧
      (Expr.col "id").compile [Sample.shelves, Sample.volumes] =
        .ok (Fragment.qualified "shelves" "id") := by
  have rearranges :
      Rearranges (Sample.labelled ++ Sample.shelved) (Sample.shelved ++ Sample.labelled) := by
    refine ⟨List.perm_append_comm, ?_⟩
    intro part
    cases part <;> rfl
  have reachedLeft : (Query.ofRoot Vendor.sqlite.dialect Sample.shelves).extendAll
      (Sample.labelled ++ Sample.shelved) =
        .ok (Sample.shelvesAfter (Sample.labelled ++ Sample.shelved)) := rfl
  have reachedRight : (Query.ofRoot Vendor.sqlite.dialect Sample.shelves).extendAll
      (Sample.shelved ++ Sample.labelled) =
        .ok (Sample.shelvesAfter (Sample.shelved ++ Sample.labelled)) := rfl
  obtain ⟨sameSelect, _, _, _, sameMulti, larger⟩ :=
    statements_rearranged _ _ _ _ _ rearranges reachedLeft reachedRight
  refine ⟨rearranges, reachedLeft, reachedRight, sameSelect, sameMulti _, ?_⟩
  have alone : (Expr.col "id").compile [Sample.shelves] =
      .ok (Fragment.qualified "shelves" "id") := rfl
  exact ((larger [Sample.shelves] [Sample.shelves, Sample.volumes] ⟨[_], rfl⟩).2 _ _).1 alone

end TypedSql
