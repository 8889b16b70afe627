import TypedSql.Proofs.Database.Composed
import TypedSql.Proofs.Session.Opened

/-!
# A single row and the rows of a selection

A single row is asked for with a limit of one, whatever limit the query has, and no more than
one row is fetched. On a connection that pages its rows as the statement says, the row is the
first one after the offset. That is the first row of the selection unless the query has a limit
of zero, under which the selection is empty.
-/

namespace TypedSql

namespace Query

variable {α : Type}

/-- The rows that are left after the offset. -/
def remaining (query : Query) (rows : List α) : List α :=
  rows.drop (query.offset.map UInt64.toNat |>.getD 0)

/-- The rows that are left after the offset, and no more of them than the limit allows. -/
def page (query : Query) (rows : List α) : List α :=
  match query.limit with
  | none => query.remaining rows
  | some count => (query.remaining rows).take count.toNat

theorem page_of_limit_zero {query : Query} (none : query.limit = some 0) (rows : List α) :
    query.page rows = [] := by
  rw [page, none]
  exact List.take_zero

/-- A page starts where the offset leads, unless nothing is allowed. -/
theorem head?_page {query : Query} (allows : query.limit ≠ some 0) (rows : List α) :
    (query.page rows).head? = (query.remaining rows).head? := by
  rw [page]
  split
  · rfl
  · next count limited =>
    have positive : count.toNat ≠ 0 := by
      intro zero
      rw [limited, UInt64.toNat.inj (b := 0) zero] at allows
      exact allows rfl
    rw [List.head?_take, if_neg positive]

end Query

/-! ## Connections that page their rows -/

/-- A cursor that hands out rows and is closed without failure. -/
def Cursor.ofRows (columns : List String) (rows : List (List Value)) : Cursor :=
  ⟨columns, rows.map fun cells => .row cells false, false, none⟩

@[simp] theorem Cursor.rows_ofRows (columns : List String) (rows : List (List Value)) :
    (Cursor.ofRows columns rows).rows = rows.map (⟨columns, ·⟩) := by
  induction rows with
  | nil => rfl
  | cons cells rows inductionHypothesis =>
      exact congrArg (⟨columns, cells⟩ :: ·) inductionHypothesis

/-- A connection answers the selection of a query with a page of some rows. -/
def Query.PagedBy
    (query : Query)
    (connection : Statement → OpenReply)
    (columns : List String)
    (rows : List (List Value)) : Prop :=
  connection query.toSelect = .cursor (.ofRows columns (query.page rows)) false

namespace Session

/-- The token of a session has not fired, and its next reply is a connection's to a statement. -/
structure Faces
    (session : Session)
    (connection : Statement → OpenReply)
    (statement : Statement) : Prop where
  unfired : session.fired = false
  answers : session.replies.head? = some (connection statement)

section Facing

variable {σ : Type} {session : Session} {connection : Statement → OpenReply}
  {statement : Statement} {cursor : Cursor}

/-- The cursor of the connection is returned, and the token has still not fired. -/
theorem Faces.exists_openCursor
    (faces : session.Faces connection statement)
    (answers : connection statement = .cursor cursor false)
    (logged : Bool) :
    ∃ opened, session.openCursor logged statement = (.ok cursor, opened) ∧
      opened.fired = false ∧ opened.rowCount = session.rowCount := by
  obtain ⟨rest, replies⟩ := List.head?_eq_some_iff.mp faces.answers
  rw [openCursor_of_unfired faces.unfired, replies, answers]
  refine ⟨_, rfl, rfl, ?_⟩
  change List.count (.fetch true) (session.calls ++ [ConnectionCall.open statement]) = _
  rw [List.count_append]
  rfl

/-- At most one row is fed. -/
theorem feedRows_one
    (unfired : session.fired = false)
    (columns : List String)
    (step : σ → Row → Except Error σ)
    (initial : σ)
    (rows : List (List Value)) :
    feedRows columns step (some 1) (Cursor.ofRows columns rows).fetches initial session =
      match rows.head? with
      | none => (.ok initial, session.note (.fetch false))
      | some cells => (step initial ⟨columns, cells⟩, session.afterRow false) := by
  have room : some 1 ≠ some 0 := by decide
  cases rows with
  | nil => exact feedRows_nil room unfired
  | cons cells rows =>
      rw [Cursor.ofRows, List.map_cons, feedRows_cons room unfired, List.head?_cons, answerFetch]
      dsimp only
      cases decision : step initial ⟨columns, cells⟩ with
      | error error => rfl
      | ok next =>
          dsimp only
          rw [Option.map_some, Nat.pred_succ]
          cases rows <;> rw [List.map, feedRows]

theorem conclude_ofRows
    (columns : List String)
    (rows : List (List Value))
    (fed : Except Error σ × Session) :
    (conclude (.ofRows columns rows) fed).1 = fed.1 := by
  have closed := conclude_closed (.ofRows columns rows) fed
  cases outcome : fed.1 with
  | ok result => exact (closed.closed result outcome rfl).1
  | error error => exact (closed.failed error outcome).1

/-- A statement that is drained for one row at most. -/
theorem drain_one
    {columns : List String}
    {rows : List (List Value)}
    (faces : session.Faces connection statement)
    (answers : connection statement = .cursor (.ofRows columns rows) false)
    (logged : Bool)
    (step : σ → Row → Except Error σ)
    (initial : σ) :
    (session.drain logged statement (some 1) step initial).1 =
        (match rows.head? with
          | none => .ok initial
          | some cells => step initial ⟨columns, cells⟩) ∧
      (session.drain logged statement (some 1) step initial).2.rowCount ≤
        session.rowCount + 1 := by
  obtain ⟨opened, returned, unfired, count⟩ := faces.exists_openCursor answers logged
  have fed := feedRows_one unfired columns step initial rows
  rw [drain_eq_conclude returned, conclude_ofRows, rowCount_conclude, ← count]
  rw [Cursor.ofRows] at fed ⊢
  rw [fed]
  cases rows.head? with
  | none =>
      refine ⟨rfl, ?_⟩
      rw [rowCount, calls_note, List.count_append]
      exact Nat.le_succ _
  | some cells =>
      refine ⟨rfl, ?_⟩
      rw [rowCount, calls_fireIf, calls_note, List.count_append]
      exact Nat.le_refl _

end Facing

end Session

namespace Database

variable {database : Database} {query : Query} {connection : Statement → OpenReply}
  {columns : List String} {rows : List (List Value)} {records : List Record}
  {session : Session}

/-- The record of the first of some rows, if there is one. -/
def firstRecord
    (database : Database)
    (query : Query)
    (columns : List String)
    (rows : List (List Value)) :
    Except Error (Option Record) :=
  match rows.head? with
  | none => .ok none
  | some cells => (database.readRecord query.root query.only ⟨columns, cells⟩).map some

theorem single_apply (database : Database) (query : Query) (session : Session) :
    database.single query session =
      let drained := database.drain (query.withLimit 1).toSelect (some 1)
        (database.recordStep query.root query.only) [] session
      (drained.1.map List.head?, drained.2) := by
  rw [single, Action.bind_apply, collect]
  rcases database.drain _ _ _ _ session with ⟨_ | _, _⟩ <;> rfl

/-- The outcome of a single row is the first row that the offset leaves. -/
theorem single_of_paged
    (database : Database)
    (paged : (query.withLimit 1).PagedBy connection columns rows)
    (faces : session.Faces connection (query.withLimit 1).toSelect) :
    (database.single query session).1 =
        database.firstRecord query columns (query.remaining rows) ∧
      (database.single query session).2.rowCount ≤ session.rowCount + 1 ∧
      (database.single query session).2.statements =
        session.statements ++ [(query.withLimit 1).toSelect] := by
  obtain ⟨outcome, bounded⟩ := Session.drain_one faces paged database.logged
    (database.recordStep query.root query.only) []
  have opened := (Session.statements_drain faces.unfired database.logged
    (query.withLimit 1).toSelect (some 1) (database.recordStep query.root query.only) []).2
  have limited : (query.withLimit 1).limit ≠ some 0 := by
    change some (1 : UInt64) ≠ some 0
    decide
  have sameOffset : (query.withLimit 1).remaining rows = query.remaining rows := rfl
  rw [Query.head?_page limited, sameOffset] at outcome
  rw [single_apply]
  refine ⟨?_, bounded, opened⟩
  dsimp only
  rw [drain, outcome, firstRecord]
  cases (query.remaining rows).head? with
  | none => rfl
  | some cells =>
      dsimp only
      rw [recordStep, ← readRecord]
      cases database.readRecord query.root query.only ⟨columns, cells⟩ <;> rfl

/-- What a selection reads is the page of its query. -/
theorem mapM_of_paged
    {after : Session}
    (paged : query.PagedBy connection columns rows)
    (faces : session.Faces connection query.toSelect)
    (selected : database.select query session = (.ok records, after)) :
    List.Forall₂
      (fun cells record =>
        database.readRecord query.root query.only ⟨columns, cells⟩ = .ok record)
      (query.page rows) records := by
  obtain ⟨cursor, opened, returned, _, read⟩ := rows_of_select selected
  obtain ⟨_, paging, _⟩ := faces.exists_openCursor paged database.logged
  rw [paging] at returned
  cases returned
  rw [Cursor.rows_ofRows] at read
  exact List.forall₂_map_left_iff.mp (mapM_eq_ok.mp read)

/--
The single row of a query is the first row of its selection, on a connection that pages its
rows as the statement says, if the query has no limit of zero; so there is none exactly if the
selection is empty. Under a limit of zero the selection is empty, but the single row is the
first one that the offset leaves, since the limit of one takes the place of the query's own.
In either case no more than one row is fetched.
-/
theorem single_heads_select
    (database : Database)
    (query : Query)
    (connection : Statement → OpenReply)
    (columns : List String)
    (rows : List (List Value))
    (records : List Record)
    (selecting selected session : Session)
    (paged : query.PagedBy connection columns rows)
    (pagedOne : (query.withLimit 1).PagedBy connection columns rows)
    (selects : selecting.Faces connection query.toSelect)
    (faces : session.Faces connection (query.withLimit 1).toSelect)
    (ran : database.select query selecting = (.ok records, selected)) :
    (database.single query session).2.statements =
      session.statements ++ [(query.withLimit 1).toSelect] ∧
    (database.single query session).2.rowCount ≤ session.rowCount + 1 ∧
    (query.limit ≠ some 0 →
      (database.single query session).1 = .ok records.head? ∧
        ((database.single query session).1 = .ok none ↔ records = [])) ∧
    (query.limit = some 0 →
      records = [] ∧
        (database.single query session).1 =
          database.firstRecord query columns (query.remaining rows)) := by
  have read := mapM_of_paged paged selects ran
  obtain ⟨outcome, bounded, opened⟩ := database.single_of_paged pagedOne faces
  refine ⟨opened, bounded, fun allows => ?_, fun nothing => ?_⟩
  · have heads : (database.single query session).1 = .ok records.head? := by
      rw [outcome, firstRecord, ← Query.head?_page allows]
      generalize query.page rows = listed at read ⊢
      cases read with
      | nil => rfl
      | cons first _ =>
          rw [List.head?_cons, List.head?_cons]
          dsimp only
          rw [first]
          rfl
    refine ⟨heads, ?_⟩
    rw [heads, Except.ok.injEq, List.head?_eq_none_iff]
  · rw [Query.page_of_limit_zero nothing] at read
    exact ⟨List.forall₂_nil_left_iff.mp read, outcome⟩

end Database

namespace Sample

/-- Three numbers, each in a row. -/
def three : List (List Value) := [[.integer 1], [.integer 2], [.integer 3]]

/-- A connection that pages three numbers for a query and for a single row of it. -/
def pager (query : Query) (statement : Statement) : OpenReply :=
  .cursor (.ofRows ["n"]
    ((if statement = query.toSelect then query else query.withLimit 1).page three)) false

theorem paged_pager (query : Query) : query.PagedBy (pager query) ["n"] three := by
  rw [Query.PagedBy, pager, if_pos rfl]

theorem pagedOne_pager
    {query : Query}
    (different : (query.withLimit 1).toSelect ≠ query.toSelect) :
    (query.withLimit 1).PagedBy (pager query) ["n"] three := by
  rw [Query.PagedBy, pager, if_neg different]

/-- A session in which the pager answers a statement. -/
def paging (query : Query) (statement : Statement) : Session :=
  .start false [pager query statement]

/-- The numbers without the first, and two of them at most. -/
def later : Query := (numbers.withLimit 2).withOffset 1

/-- No numbers. -/
def fewest : Query := numbers.withLimit 0

end Sample

namespace Database

/-- The second of three numbers is the first of a selection that leaves the first one out. -/
theorem single_heads_select_later :
    Sample.later.limit ≠ some 0 ∧
      Sample.later.PagedBy (Sample.pager Sample.later) ["n"] Sample.three ∧
      (Sample.later.withLimit 1).PagedBy (Sample.pager Sample.later) ["n"] Sample.three ∧
      (Sample.database.select Sample.later
        (Sample.paging Sample.later Sample.later.toSelect)).1 =
        .ok [Sample.number 2, Sample.number 3] ∧
      (Sample.database.single Sample.later
        (Sample.paging Sample.later (Sample.later.withLimit 1).toSelect)).1 =
        .ok (some (Sample.number 2)) := by
  have limited : Sample.later.limit ≠ some 0 := by decide
  have paged := Sample.paged_pager Sample.later
  have pagedOne : (Sample.later.withLimit 1).PagedBy _ _ _ :=
    Sample.pagedOne_pager (by decide +kernel)
  have selected : (Sample.database.select Sample.later
      (Sample.paging Sample.later Sample.later.toSelect)).1 =
        .ok [Sample.number 2, Sample.number 3] := by decide +kernel
  have heads := single_heads_select Sample.database Sample.later (Sample.pager Sample.later)
    ["n"] Sample.three [Sample.number 2, Sample.number 3]
    (Sample.paging Sample.later Sample.later.toSelect) _
    (Sample.paging Sample.later (Sample.later.withLimit 1).toSelect) paged pagedOne ⟨rfl, rfl⟩
    ⟨rfl, rfl⟩ (Prod.ext selected rfl)
  exact ⟨limited, paged, pagedOne, selected, (heads.2.2.1 limited).1⟩

/-- A query with a limit of zero selects nothing, but there is a single row of it. -/
theorem single_ignores_limit :
    Sample.fewest.PagedBy (Sample.pager Sample.fewest) ["n"] Sample.three ∧
      (Sample.fewest.withLimit 1).PagedBy (Sample.pager Sample.fewest) ["n"] Sample.three ∧
      (Sample.database.select Sample.fewest
        (Sample.paging Sample.fewest Sample.fewest.toSelect)).1 = .ok [] ∧
      (Sample.database.single Sample.fewest
        (Sample.paging Sample.fewest (Sample.fewest.withLimit 1).toSelect)).1 =
        .ok (some (Sample.number 1)) :=
  ⟨Sample.paged_pager Sample.fewest, Sample.pagedOne_pager (by decide +kernel),
    by decide +kernel, by decide +kernel⟩

end Database
end TypedSql
