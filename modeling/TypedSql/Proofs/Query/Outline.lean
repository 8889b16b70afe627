import TypedSql.Proofs.Query.Parts
import TypedSql.Proofs.Query.Statements

/-!
# Outlines of statements

A statement is a flat list of chunks. Its outline is what is found when it is cut outside of
parentheses at the words that clauses start with, and lists at their commas. The outline of
a select statement is the query: the projection, the tables with the conditions on which
they are joined, the filter, and what rows are grouped and ordered by.
-/

namespace TypedSql

/-- The parts of a select statement. -/
structure Outline where
  /-- The selected fragments, and their names if they have any. -/
  items : List (Fragment × Option String)
  root : String
  /-- How a table is joined, its name, and the condition. -/
  joins : List (JoinKind × String × Fragment)
  condition : Option Fragment
  grouping : List Fragment
  order : List (Fragment × Direction)
  /-- The text of the page that is asked for. -/
  page : Option String
  deriving DecidableEq

/-- Whether a keyword starts a clause, or the condition of a join. -/
def Keyword.startsClause : Keyword → Bool
  | .selectKw => true
  | .fromKw => true
  | .innerKw => true
  | .leftKw => true
  | .onKw => true
  | .whereKw => true
  | .groupKw => true
  | .orderKw => true
  | _ => false

/-- Whether a chunk starts a clause, or the condition of a join. -/
def Chunk.startsClause : Chunk → Bool
  | .token (.keyword word) => word.startsClause
  | _ => false

namespace Outline

/-! ## Reading clauses -/

/-- The joins at the start of clauses, and the clauses behind them. -/
def takeJoins : List Fragment.Segment → List (JoinKind × String × Fragment) × List Fragment.Segment
  | (.token (.keyword .innerKw), [.token (.keyword .joinKw), .identifier table]) ::
      (.token (.keyword .onKw), condition) :: rest =>
      let others := takeJoins rest
      ((.inner, table, condition) :: others.1, others.2)
  | (.token (.keyword .leftKw), [.token (.keyword .joinKw), .identifier table]) ::
      (.token (.keyword .onKw), condition) :: rest =>
      let others := takeJoins rest
      ((.left, table, condition) :: others.1, others.2)
  | clauses => ([], clauses)

/-- The condition on rows, if it comes first, and the clauses behind it. -/
def takeCondition : List Fragment.Segment → Option Fragment × List Fragment.Segment
  | (.token (.keyword .whereKw), condition) :: rest => (some condition, rest)
  | clauses => (none, clauses)

/-- The list of a clause that starts with a keyword, if it comes first, and those behind it. -/
def takeList (word : Keyword) : List Fragment.Segment → List Fragment × List Fragment.Segment
  | (.token (.keyword first), .token (.keyword .byKw) :: items) :: rest =>
      if first = word then (Fragment.splitCommas items, rest)
      else ([], (.token (.keyword first), .token (.keyword .byKw) :: items) :: rest)
  | clauses => ([], clauses)

/-- The outline of clauses that stand in order, each at most once. -/
def ofClauses? (page : Option String) : List Fragment.Segment → Option Outline
  | (.token (.keyword .selectKw), projection) ::
      (.token (.keyword .fromKw), [.identifier root]) :: rest =>
      let joins := takeJoins rest
      let condition := takeCondition joins.2
      let grouping := takeList .groupKw condition.2
      let order := takeList .orderKw grouping.2
      if order.2.isEmpty then
        (order.1.mapM Fragment.splitDirection?).map fun directed =>
          ⟨projection.splitCommas.map Fragment.splitName, root, joins.1, condition.1,
            grouping.1, directed, page⟩
      else none
  | _ => none

end Outline

/-- The outline of a statement, if it has one. -/
def Fragment.outline? (fragment : Fragment) : Option Outline :=
  let body := fragment.splitRaw
  let clauses := body.1.cut Chunk.startsClause
  if clauses.1.isEmpty then Outline.ofClauses? body.2 clauses.2 else none

namespace Query

variable {query : Query} {projection : Fragment}

/-! ## Clauses of a query -/

/-- The clauses of a join. -/
def joinClauses (join : Join) : List Fragment.Segment :=
  [(.keyword join.kind.keyword, [.keyword .joinKw, .identifier join.shape.table]),
    (.keyword .onKw, join.condition)]

/-- The clause with the condition on rows. -/
def conditionClauses (query : Query) : List Fragment.Segment :=
  (query.filter.map fun filter => ((.keyword .whereKw : Chunk), filter.condition)).toList

/-- The clause with a list behind two keywords. -/
def listClauses (word : Keyword) (items : List Fragment) : List Fragment.Segment :=
  if items.isEmpty then [] else [(.keyword word, .keyword .byKw :: Fragment.commas items)]

/-- The clauses of a select statement. -/
def clauses (query : Query) (projection : Fragment) : List Fragment.Segment :=
  (.keyword .selectKw, projection) :: (.keyword .fromKw, [.identifier query.root.table]) ::
    (query.joins.flatMap joinClauses ++ (query.conditionClauses ++
      (listClauses .groupKw query.grouping ++ listClauses .orderKw query.order)))

theorem ofSegments_listClauses (word : Keyword) (items : List Fragment) :
    Fragment.ofSegments (listClauses word items) = listClause word items := by
  unfold listClauses listClause
  split
  · rfl
  · simp [Fragment.ofSegments]

theorem ofSegments_joinClauses (joins : List Join) :
    Fragment.ofSegments (joins.flatMap joinClauses) = joins.flatMap joinClause := by
  rw [Fragment.ofSegments, List.flatMap_assoc]
  refine List.flatMap_congr fun join _ => ?_
  simp [joinClauses, joinClause]

theorem ofSegments_conditionClauses (query : Query) :
    Fragment.ofSegments query.conditionClauses = query.whereClause := by
  unfold conditionClauses whereClause
  cases query.filter <;> simp [Fragment.ofSegments]

/-- A select statement is its clauses in a row. -/
theorem bodyOf_eq_ofSegments (query : Query) (projection : Fragment) :
    query.bodyOf projection = Fragment.ofSegments (query.clauses projection) := by
  simp only [clauses, Fragment.ofSegments_cons, Fragment.ofSegments_append,
    ofSegments_joinClauses, ofSegments_conditionClauses, ofSegments_listClauses, bodyOf,
    fromClause, groupClause, orderClause, List.cons_append, List.nil_append, List.append_assoc]

/-! ## Reading the clauses of a query -/

section Reading

open Outline

theorem takeJoins_joinClauses
    {rest : List Fragment.Segment}
    (joins : List Join)
    (noJoin : takeJoins rest = ([], rest)) :
    takeJoins (joins.flatMap joinClauses ++ rest) =
      (joins.map fun join => (join.kind, join.shape.table, join.condition), rest) := by
  induction joins with
  | nil => exact noJoin
  | cons join joins inductionHypothesis =>
      obtain ⟨kind, shape, condition⟩ := join
      rw [List.flatMap_cons, List.append_assoc]
      cases kind <;>
        simp only [joinClauses, JoinKind.keyword, List.cons_append, List.nil_append, takeJoins,
          inductionHypothesis, List.map_cons]

theorem takeList_listClauses
    {items : List Fragment}
    {rest : List Fragment.Segment}
    (word : Keyword)
    (each : ∀ item ∈ items, Fragment.Sealed Fragment.isComma item)
    (noList : takeList word rest = ([], rest)) :
    takeList word (listClauses word items ++ rest) = (items, rest) := by
  cases items with
  | nil => exact noList
  | cons first others =>
      have parts := Fragment.splitCommas_commas (List.cons_ne_nil first others) each
      simp [listClauses, takeList, parts]

/-- The clauses of a query have the query as their outline. -/
theorem ofClauses?_clauses
    {items : List (Fragment × Option String)}
    {order : List (Fragment × Direction)}
    (page : Option String)
    (nonempty : items ≠ [])
    (itemsSealed : ∀ item ∈ items, Fragment.Sealed Chunk.isSeparator item.1)
    (groupingSealed : ∀ item ∈ query.grouping, Fragment.Sealed Chunk.isSeparator item)
    (orderSealed : ∀ item ∈ order, Fragment.Sealed Chunk.isSeparator item.1)
    (ordered : query.order = order.map Fragment.directed) :
    ofClauses? page (query.clauses (.commas (items.map Fragment.aliased))) =
      some ⟨items, query.root.table,
        query.joins.map fun join => (join.kind, join.shape.table, join.condition),
        query.filter.map Filter.condition, query.grouping, order, page⟩ := by
  have noJoin : takeJoins (query.conditionClauses ++
      (listClauses .groupKw query.grouping ++ listClauses .orderKw query.order)) =
        ([], query.conditionClauses ++
          (listClauses .groupKw query.grouping ++ listClauses .orderKw query.order)) := by
    unfold conditionClauses listClauses
    cases query.filter <;> cases query.grouping <;> cases query.order <;> rfl
  have condition : takeCondition (query.conditionClauses ++
      (listClauses .groupKw query.grouping ++ listClauses .orderKw query.order)) =
        (query.filter.map Filter.condition,
          listClauses .groupKw query.grouping ++ listClauses .orderKw query.order) := by
    unfold conditionClauses listClauses
    cases query.filter <;> cases query.grouping <;> cases query.order <;> rfl
  have noGrouping : takeList .groupKw (listClauses .orderKw query.order) =
      ([], listClauses .orderKw query.order) := by
    unfold listClauses
    cases query.order <;> rfl
  have grouping := takeList_listClauses .groupKw
    (fun item member => (groupingSealed item member).mono Fragment.isSeparator_of_isComma)
    noGrouping
  have order : takeList .orderKw (listClauses .orderKw query.order) = (query.order, []) := by
    have sealedParts := Fragment.sealed_of_mem_map_directed orderSealed
    rw [← ordered] at sealedParts
    have whole := takeList_listClauses .orderKw sealedParts (rfl : takeList _ [] = ([], []))
    rwa [List.append_nil] at whole
  rw [clauses, ofClauses?]
  simp only [takeJoins_joinClauses query.joins noJoin, condition, grouping, order,
    List.isEmpty_nil, if_true, Fragment.map_splitName_splitCommas nonempty itemsSealed]
  rw [ordered, Fragment.mapM_splitDirection?, Option.map_some]

end Reading

/-! ## Statements -/

theorem isSeparator_of_startsClause (chunk : Chunk) (starts : chunk.startsClause = true) :
    chunk.isSeparator = true := by
  unfold Chunk.startsClause at starts
  split at starts
  · next word => cases word <;> first | rfl | cases starts
  · cases starts

theorem isSegment_keyword
    {word : Keyword}
    {fragment : Fragment}
    (starts : word.startsClause = true)
    (isSealed : Fragment.Sealed Chunk.startsClause fragment) :
    Fragment.IsSegment Chunk.startsClause (.keyword word, fragment) :=
  ⟨starts, rfl, rfl, isSealed⟩

theorem isSegment_listClauses
    {word : Keyword}
    {items : List Fragment}
    (starts : word.startsClause = true)
    (each : ∀ item ∈ items, Fragment.Sealed Chunk.startsClause item) :
    ∀ clause ∈ listClauses word items, Fragment.IsSegment Chunk.startsClause clause := by
  intro clause member
  unfold listClauses at member
  split at member
  · cases member
  · obtain rfl := List.mem_singleton.mp member
    refine isSegment_keyword starts ?_
    exact (Fragment.sealed_chunk rfl rfl rfl).append (Fragment.Sealed.join rfl rfl each)

/-- The words that clauses start with stand nowhere else outside of parentheses. -/
theorem isSegment_clauses
    (built : Built (fun _ => Fragment.Sealed Chunk.isSeparator) query)
    (projected : Fragment.Sealed Chunk.startsClause projection) :
    ∀ clause ∈ query.clauses projection, Fragment.IsSegment Chunk.startsClause clause := by
  refine List.forall_mem_cons.mpr ⟨isSegment_keyword rfl projected, ?_⟩
  refine List.forall_mem_cons.mpr
    ⟨isSegment_keyword rfl (Fragment.sealed_chunk rfl rfl rfl), ?_⟩
  simp only [List.forall_mem_append]
  refine ⟨?_, ?_, ?_, ?_⟩
  · intro clause member
    obtain ⟨join, isJoin, inJoin⟩ := List.mem_flatMap.mp member
    rcases List.mem_cons.mp inJoin with rfl | inRest
    · refine isSegment_keyword (by cases join.kind <;> rfl) ?_
      exact (Fragment.sealed_chunk rfl rfl rfl).append (Fragment.sealed_chunk rfl rfl rfl)
    · obtain rfl := List.mem_singleton.mp inRest
      have condition := built.condition Fragment.sealed_stable join isJoin
      exact isSegment_keyword rfl (condition.mono isSeparator_of_startsClause)
  · intro clause member
    obtain ⟨filter, present, rfl⟩ := Option.map_eq_some_iff.mp (Option.mem_toList.mp member)
    have condition := built.filter filter present
    exact isSegment_keyword rfl (condition.mono isSeparator_of_startsClause)
  · refine isSegment_listClauses rfl fun item member => ?_
    exact (built.grouping item member).mono isSeparator_of_startsClause
  · refine isSegment_listClauses rfl fun item member => ?_
    obtain ⟨inner, direction, innerSealed, rfl⟩ := built.order item member
    have inside := innerSealed.mono isSeparator_of_startsClause
    exact inside.append (Fragment.sealed_chunk rfl (by cases direction <;> rfl) rfl)

theorem sealed_projection
    {items : List (Fragment × Option String)}
    (each : ∀ item ∈ items, Fragment.Sealed Chunk.isSeparator item.1) :
    Fragment.Sealed Chunk.startsClause (.commas (items.map Fragment.aliased)) := by
  refine Fragment.Sealed.join rfl rfl fun part member => ?_
  obtain ⟨item, isItem, rfl⟩ := List.mem_map.mp member
  exact ((each item isItem).mono isSeparator_of_startsClause).aliased rfl fun _ => rfl

section Statements

variable {items : List (Fragment × Option String)} {order : List (Fragment × Direction)}
  (built : Built (fun _ => Fragment.Sealed Chunk.isSeparator) query)
  (itemsSealed : ∀ item ∈ items, Fragment.Sealed Chunk.isSeparator item.1)

include built itemsSealed

/-- A select statement with a page or without one is balanced. -/
theorem balanced_bodyOf (page : Option String) :
    Fragment.Balanced (query.bodyOf (.commas (items.map Fragment.aliased)) ++
      (page.map Chunk.raw).toList) := by
  have segments := isSegment_clauses built (sealed_projection itemsSealed)
  have body := (Fragment.sealed_ofSegments segments).whole
  rw [bodyOf_eq_ofSegments]
  cases page with
  | none => exact (body.append Fragment.whole_nil).balanced
  | some text => exact (body.append (Fragment.whole_chunk rfl rfl)).balanced

/-- The outline of a select statement is what it was put together from. -/
theorem outline?_bodyOf
    (page : Option String)
    (nonempty : items ≠ [])
    (orderSealed : ∀ item ∈ order, Fragment.Sealed Chunk.isSeparator item.1)
    (ordered : query.order = order.map Fragment.directed) :
    Fragment.outline? (query.bodyOf (.commas (items.map Fragment.aliased)) ++
        (page.map Chunk.raw).toList) =
      some ⟨items, query.root.table,
        query.joins.map fun join => (join.kind, join.shape.table, join.condition),
        query.filter.map Filter.condition, query.grouping, order, page⟩ := by
  have segments := isSegment_clauses built (sealed_projection itemsSealed)
  have ends : Fragment.splitRaw
      (Fragment.ofSegments (query.clauses (.commas (items.map Fragment.aliased))) ++
        (page.map Chunk.raw).toList) =
      (Fragment.ofSegments (query.clauses (.commas (items.map Fragment.aliased))), page) := by
    cases page with
    | none =>
        rw [Option.map_none, Option.toList_none, List.append_nil]
        exact (Fragment.sealed_ofSegments segments).ends.splitRaw_eq
    | some text => exact Fragment.splitRaw_append_raw _ text
  rw [Fragment.outline?, bodyOf_eq_ofSegments, ends]
  simp only [Fragment.cut_ofSegments segments, List.isEmpty_nil, if_true]
  exact ofClauses?_clauses page nonempty itemsSealed built.grouping orderSealed ordered

end Statements

/-- Without an order, a query is built of the same fragments. -/
theorem Built.unordered
    {holds : Scope → Fragment → Prop}
    (built : Built holds query) :
    Built holds { query with order := [] } :=
  { built with order := by simp }

theorem pageClause_eq (query : Query) :
    query.pageClause =
      ((query.dialect.paging query.limit query.offset).map Chunk.raw).toList := by
  unfold pageClause
  cases query.dialect.paging query.limit query.offset <;> rfl

/-- Rows are counted by a select statement without an order and a page. -/
theorem countFragment_eq (query : Query) :
    query.countFragment =
      { query with order := [] }.bodyOf
        (.commas ([(Fragment.countRows, none)].map Fragment.aliased)) := by
  rw [bodyOf]
  exact (List.append_nil _).symm

/--
The parentheses of the statements of a query are balanced, and their outlines are the query:
the expressions that were selected last under their names, or else the root's columns; the
root; the joins, groupings and orders in the order of the calls, each what its expression
compiles to; the filter; and the page. The statement that counts rows has the same tables,
filter and grouping, and neither an order nor a page.
-/
theorem outlines_recovered
    (dialect : Dialect)
    (root : Shape)
    (calls : List QueryCall)
    (final : Query)
    (compiled : ∀ call ∈ calls, call.isCompiled = true)
    (reached : (ofRoot dialect root).extendAll calls = .ok final) :
    final.toSelect = final.rowsFragment.build dialect ∧
      final.toCount = final.countFragment.build dialect ∧
      final.rowsFragment.Balanced ∧
      final.countFragment.Balanced ∧
      List.Forall₂ (IsJoin final.scope) (calls.flatMap QueryCall.joins) final.joins ∧
      List.Forall₂ (fun expr fragment => expr.compile final.scope = .ok fragment)
        (calls.flatMap QueryCall.groupings) final.grouping ∧
      ∃ items order,
        final.Projects (calls.filterMap QueryCall.selection?).getLast? items ∧
        List.Forall₂ (IsOrder final.scope) (calls.flatMap QueryCall.orders) order ∧
        final.order = order.map Fragment.directed ∧
        final.rowsFragment.outline? =
          some ⟨items, root.table,
            final.joins.map fun join => (join.kind, join.shape.table, join.condition),
            final.filter.map Filter.condition, final.grouping, order,
            dialect.paging final.limit final.offset⟩ ∧
        final.countFragment.outline? =
          some ⟨[(.countRows, none)], root.table,
            final.joins.map fun join => (join.kind, join.shape.table, join.condition),
            final.filter.map Filter.condition, final.grouping, [], none⟩ := by
  obtain ⟨rfl, rfl⟩ : final.dialect = dialect ∧ final.root = root := extendAll_origin reached
  obtain ⟨_, rfl, joined⟩ := extendAll_joins reached
  obtain ⟨_, rfl, grouped⟩ := extendAll_grouping reached
  obtain ⟨order, ordered, orders⟩ := extendAll_order reached
  obtain ⟨items, projects, nonempty, itemsSealed, projection⟩ :=
    exists_projected_items compiled reached
  have built := built_extendAll Fragment.sealed_stable compiled reached
  have orderSealed : ∀ item ∈ order, Fragment.Sealed Chunk.isSeparator item.1 :=
    forall_mem_of_forall₂ orders fun call _ item isOrder =>
      call.1.holds_compile (Fragment.sealed_compositional final.scope) item.1 isOrder.1
  have rows : final.rowsFragment =
      final.bodyOf (.commas (items.map Fragment.aliased)) ++
        ((final.dialect.paging final.limit final.offset).map Chunk.raw).toList := by
    rw [rowsFragment, selectFragmentOf_eq, projection, pageClause_eq]
  have counted : ∀ item ∈ [(Fragment.countRows, (none : Option String))],
      Fragment.Sealed Chunk.isSeparator item.1 := by
    simpa using (Fragment.sealed_compositional final.scope).countRows
  have countsBalanced := balanced_bodyOf built.unordered counted none
  have unorderedSealed : ∀ item ∈ ([] : List (Fragment × Direction)),
      Fragment.Sealed Chunk.isSeparator item.1 := by
    simp
  have countsOutline := outline?_bodyOf built.unordered counted none (List.cons_ne_nil _ _)
    unorderedSealed rfl
  rw [← countFragment_eq, Option.map_none, Option.toList_none, List.append_nil]
    at countsBalanced countsOutline
  refine ⟨rfl, rfl, ?_, countsBalanced, joined, grouped, items, order, projects, orders, ordered,
    ?_, countsOutline⟩
  · rw [rows]
    exact balanced_bodyOf built itemsSealed _
  · rw [rows]
    exact outline?_bodyOf built itemsSealed _ nonempty orderSealed ordered

end Query

namespace Sample

/-- A join, a list, calls of functions with commas, a name, and several keys to order by. -/
def summary : List QueryCall :=
  [.filter .and (.membership (.col "id") [.literal (.integer 1), .literal (.integer 2)] true),
   .join .left volumes (.binary .eq (.col "shelf") (.colOf "shelves" "id")),
   .filter .or (.nullTest (.col "label") false),
   .select [.col "label"],
   .groupBy (.col "label"),
   .orderBy (.call "max" [.col "shelf"]) .descending,
   .orderBy (.col "label") .ascending,
   .select [.named (.call "coalesce" [.col "label", .literal (.text "")]) "name", .countRows],
   .limit 5]

/-- The query after the calls. -/
def summarized : Query := (Query.ofRoot Vendor.sqlite.dialect shelves).extendEach summary

/-- The outline of its statement. -/
def summaryOutline : Outline where
  items :=
    [(.call "COALESCE"
        (Fragment.qualified "shelves" "Label" ++ [.mark .comma, .parameter (.text "")]),
        some "name"),
      (.countRows, none)]
  root := "shelves"
  joins :=
    [(.left, "volumes", Fragment.qualified "volumes" "shelf_id" ++ .operator .eq ::
      Fragment.qualified "shelves" "id")]
  condition := summarized.filter.map Filter.condition
  grouping := [Fragment.qualified "shelves" "Label"]
  order :=
    [(.call "MAX" (Fragment.qualified "volumes" "shelf_id"), .descending),
      (Fragment.qualified "shelves" "Label", .ascending)]
  page := some "LIMIT 5"

end Sample

namespace Query

/-- The last of two projections is found, and no comma in parentheses cuts a list. -/
theorem outlines_recovered_summary :
    (∀ call ∈ Sample.summary, call.isCompiled = true) ∧
      (ofRoot Vendor.sqlite.dialect Sample.shelves).extendAll Sample.summary =
        .ok Sample.summarized ∧
      Sample.summarized.rowsFragment.Balanced ∧
      Sample.summarized.rowsFragment.outline? = some Sample.summaryOutline ∧
      Sample.summarized.Projects
        (some [.named (.call "coalesce" [.col "label", .literal (.text "")]) "name", .countRows])
        Sample.summaryOutline.items ∧
      Sample.summarized.countFragment.outline? =
        some { Sample.summaryOutline with
          items := [(.countRows, none)], order := [], page := none } := by
  have compiled : ∀ call ∈ Sample.summary, call.isCompiled = true := by decide
  have reached : (ofRoot Vendor.sqlite.dialect Sample.shelves).extendAll Sample.summary =
      .ok Sample.summarized := rfl
  obtain ⟨_, _, balanced, _, _, _, items, order, projects, _, _, rows, counts⟩ :=
    outlines_recovered Vendor.sqlite.dialect Sample.shelves Sample.summary Sample.summarized
      compiled reached
  have found : Sample.summarized.rowsFragment.outline? = some Sample.summaryOutline := by decide
  obtain rfl : items = Sample.summaryOutline.items :=
    congrArg Outline.items (Option.some.inj (rows.symm.trans found))
  exact ⟨compiled, reached, balanced, found, projects, counts⟩

end Query
end TypedSql
