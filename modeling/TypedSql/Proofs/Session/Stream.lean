import TypedSql.Proofs.Session.Drain

/-!
# Streams beside drained statements

A stream reads the rows of its cursor one by one, and a selection reads the rows of
the same cursor in a loop. What ties the two together is that, after any number of
records, the stream goes on with the replies that the loop has still to look at, in
the same session.
-/

namespace TypedSql

/-! ## Pulling items -/

namespace StreamSource

/-- A stream hands out items, one for each time it is asked. -/
inductive Yields (source : StreamSource) :
    StreamState → Session → List StreamItem → StreamState → Session → Prop
  | nil (state : StreamState) (session : Session) :
      Yields source state session [] state session
  | cons
      {state next last : StreamState}
      {session middle after : Session}
      {item : StreamItem}
      {items : List StreamItem} :
      source.pull state session = (some (item, next), middle) →
      Yields source next middle items last after →
      Yields source state session (item :: items) last after

section Pulling

variable
  {source : StreamSource}
  {state next last : StreamState}
  {session middle after : Session}
  {item : StreamItem}
  {items : List StreamItem}

theorem items_of_pull_none
    (pulled : source.pull state session = (none, after)) :
    source.items none state session = ([], after) := by
  rw [StreamSource.items, if_neg (by simp)]
  split
  · next found =>
    rw [pulled] at found
    cases found
    rfl
  · next found =>
    rw [pulled] at found
    cases found

theorem items_of_pull_some
    (pulled : source.pull state session = (some (item, next), middle)) :
    source.items none state session =
      (item :: (source.items none next middle).1, (source.items none next middle).2) := by
  rw [StreamSource.items, if_neg (by simp)]
  split
  · next found =>
    rw [pulled] at found
    cases found
  · next found =>
    rw [pulled] at found
    cases found
    rfl

/-- A stream that is read to its end hands out its items until it has none. -/
theorem items_of_yields
    (yields : source.Yields state session items last middle)
    (finished : source.pull last middle = (none, after)) :
    source.items none state session = (items, after) := by
  induction yields with
  | nil state session => exact items_of_pull_none finished
  | cons pulled _ inductionHypothesis =>
      rw [items_of_pull_some pulled, inductionHypothesis finished]

end Pulling

end StreamSource

/-! ## Closing -/

namespace Session

variable {σ : Type} {cursor : Cursor}

/-- What closing a cursor makes of what the feeding of its rows did. -/
def conclude (cursor : Cursor) (fed : Except Error σ × Session) : Except Error σ × Session :=
  (fed.2.closeCursor cursor).2.settle fed.1 (fed.2.closeCursor cursor).1

theorem conclude_closed (cursor : Cursor) (fed : Except Error σ × Session) :
    Closed cursor fed (conclude cursor fed) :=
  settle_closed cursor fed.1 fed.2

theorem drain_eq_conclude
    {logged : Bool}
    {statement : Statement}
    {budget : Option Nat}
    {step : σ → Row → Except Error σ}
    {initial : σ}
    {session opened : Session}
    (returned : session.openCursor logged statement = (.ok cursor, opened)) :
    session.drain logged statement budget step initial =
      conclude cursor (feedRows cursor.columns step budget cursor.fetches initial opened) := by
  rw [drain, returned]
  rfl

/-- Closing takes no rows. -/
theorem rowCount_conclude (cursor : Cursor) (fed : Except Error σ × Session) :
    (conclude cursor fed).2.rowCount = fed.2.rowCount := by
  rw [rowCount, (conclude_closed cursor fed).calls, List.count_append]
  rfl

/-- The rows that are left do not matter to how a cursor is closed. -/
theorem conclude_advance (cursor : Cursor) (fed : Except Error σ × Session) :
    conclude cursor.advance fed = conclude cursor fed :=
  rfl

theorem conclude_error (cursor : Cursor) (error : Error) (session : Session) :
    (conclude cursor ((.error error, session) : Except Error σ × Session)).1 = .error error :=
  ((conclude_closed cursor _).failed error rfl).1

end Session

/-! ## A stream beside a loop -/

namespace StreamSource

/--
What a stream hands out beside the outcome of a loop that has already `collected`
records, when the connection hands out the rows `served` to each of them.
-/
inductive Agrees
    (source : StreamSource)
    (state : StreamState)
    (session : Session)
    (collected : List Record) :
    List Row → Except Error (List Record) × Session → Prop
  /-- Every row is read, and the stream ends. -/
  | complete
      {last : StreamState}
      {middle after : Session}
      (served : List Row)
      (records : List Record) :
      served.mapM source.readRow = .ok records →
      source.Yields state session (records.map .ok) last middle →
      source.pull last middle = (none, after) →
      Agrees source state session collected served (.ok (collected ++ records), after)
  /-- Every row is read, and what follows them fails. -/
  | failed
      {error : Error}
      {after : Session}
      (served : List Row)
      (records : List Record) :
      served.mapM source.readRow = .ok records →
      source.Yields state session (records.map .ok ++ [.error error]) .done after →
      Agrees source state session collected served (.error error, after)
  /-- The last row cannot be read. -/
  | refused
      {error : Error}
      {after : Session}
      (front : List Row)
      (row : Row)
      (records : List Record) :
      front.mapM source.readRow = .ok records →
      source.readRow row = .error error →
      source.Yields state session (records.map .ok ++ [.error error]) .done after →
      Agrees source state session collected (front ++ [row]) (.error error, after)

section Reading

variable
  {source : StreamSource}
  {state next : StreamState}
  {session middle after : Session}
  {cursor : Cursor}
  {error : Error}
  {collected : List Record}
  {served : List Row}
  {drained : Except Error (List Record) × Session}

/-- The records of a row and of those after it. -/
theorem mapM_readRow_cons
    {row : Row}
    {record : Record}
    {rows : List Row}
    {records : List Record}
    (first : source.readRow row = .ok record)
    (others : rows.mapM source.readRow = .ok records) :
    (row :: rows).mapM source.readRow = .ok (record :: records) := by
  rw [List.mapM_cons]
  exact bind_eq_ok.mpr ⟨record, first, bind_eq_ok.mpr ⟨records, others, rfl⟩⟩

/-- A record that both hand out may be put before what they agree on. -/
theorem Agrees.cons
    {row : Row}
    {record : Record}
    (first : source.readRow row = .ok record)
    (pulled : source.pull state session = (some (.ok record, next), middle))
    (agrees : source.Agrees next middle (collected ++ [record]) served drained) :
    source.Agrees state session collected (row :: served) drained := by
  cases agrees with
  | complete _ records read yields finished =>
      rw [List.append_assoc, List.singleton_append]
      exact .complete _ _ (mapM_readRow_cons first read) (.cons pulled yields) finished
  | failed _ records read yields =>
      exact .failed _ _ (mapM_readRow_cons first read) (.cons pulled yields)
  | refused front refusedRow records read refusal yields =>
      rw [← List.cons_append]
      exact .refused _ _ _ (mapM_readRow_cons first read) refusal (.cons pulled yields)

/-- Two states that are asked alike hand out the same items. -/
theorem Yields.congr
    {other last : StreamState}
    {opened : Session}
    {items : List StreamItem}
    (same : source.pull state session = source.pull other opened)
    (yields : source.Yields other opened items last middle) :
    (items = [] ∧ last = other ∧ middle = opened) ∨
      source.Yields state session items last middle := by
  cases yields with
  | nil => exact .inl ⟨rfl, rfl, rfl⟩
  | cons pulled others => exact .inr (.cons (same.trans pulled) others)

/-- Two states that are asked alike agree with the same loops. -/
theorem Agrees.congr
    {other : StreamState}
    {opened : Session}
    (same : source.pull state session = source.pull other opened)
    (agrees : source.Agrees other opened collected served drained) :
    source.Agrees state session collected served drained := by
  cases agrees with
  | complete _ records read yields finished =>
      rcases yields.congr same with ⟨empty, rfl, rfl⟩ | sameYields
      · refine .complete _ records read ?_ (same.trans finished)
        rw [empty]
        exact .nil _ _
      · exact .complete _ records read sameYields finished
  | failed _ records read yields =>
      rcases yields.congr same with ⟨empty, _, _⟩ | sameYields
      · exact absurd empty (List.append_ne_nil_of_right_ne_nil _ (List.cons_ne_nil _ _))
      · exact .failed _ records read sameYields
  | refused front row records read refusal yields =>
      rcases yields.congr same with ⟨empty, _, _⟩ | sameYields
      · exact absurd empty (List.append_ne_nil_of_right_ne_nil _ (List.cons_ne_nil _ _))
      · exact .refused front row records read refusal sameYields

/-- A stream that fails closes its cursor like a loop that fails. -/
theorem yields_of_fail
    (σ : Type)
    (pulled : source.pull (.reading cursor) session = fail cursor error middle) :
    source.Yields (.reading cursor) session [.error error] .done
      (Session.conclude cursor ((.error error, middle) : Except Error σ × Session)).2 := by
  refine .cons ?_ (.nil _ _)
  rw [pulled]
  unfold fail Session.conclude Session.closeCursor
  cases cursor.closeFailure with
  | none => rfl
  | some reason => rfl

end Reading

/-! ## From any point on -/

/-- An open stream goes on like a loop that fed the rows of the same cursor. -/
def Follows
    (source : StreamSource)
    (cursor : Cursor)
    (collected : List Record)
    (session : Session)
    (fed : Except Error (List Record) × Session) : Prop :=
  ∃ served,
    served <+: cursor.rows ∧
    fed.2.rowCount = session.rowCount + served.length ∧
    source.Agrees (.reading cursor) session collected served (Session.conclude cursor fed)

section Following

variable
  {source : StreamSource}
  {cursor : Cursor}
  {collected : List Record}
  {session middle : Session}
  {row : Row}
  {rows : List Row}
  {error : Error}

/-- Where the next fetch fails, stream and loop fail alike. -/
theorem Follows.failed
    (fetched : session.fetch cursor = (.failed error, middle))
    (noRow : middle.rowCount = session.rowCount) :
    source.Follows cursor collected session (.error error, middle) := by
  have pulled : source.pull (.reading cursor) session = fail cursor error middle := by
    simp only [pull, pullReading, fetched]
  refine ⟨[], List.nil_prefix, noRow, ?_⟩
  rw [← Prod.eta (Session.conclude _ _), Session.conclude_error]
  exact .failed [] [] rfl (yields_of_fail _ pulled)

/-- Where a row cannot be read, stream and loop fail alike. -/
theorem Follows.refused
    (fetched : session.fetch cursor = (.row row, middle))
    (oneRow : middle.rowCount = session.rowCount + 1)
    (ahead : cursor.rows = row :: rows)
    (refusal : source.readRow row = .error error) :
    source.Follows cursor collected session (.error error, middle) := by
  have pulled : source.pull (.reading cursor) session = fail cursor error middle := by
    simp only [pull, pullReading, fetched, refusal]
  refine ⟨[row], ?_, oneRow, ?_⟩
  · rw [ahead]
    exact (List.prefix_cons_inj row).mpr List.nil_prefix
  · rw [← Prod.eta (Session.conclude _ _), Session.conclude_error]
    exact .refused [] row [] rfl refusal (yields_of_fail _ pulled)

/-- Where there are no more rows, stream and loop close the cursor alike. -/
theorem Follows.finished
    (fetched : session.fetch cursor = (.finished, middle))
    (noRow : middle.rowCount = session.rowCount) :
    source.Follows cursor collected session (.ok collected, middle) := by
  refine ⟨[], List.nil_prefix, noRow, ?_⟩
  unfold Session.conclude
  rcases closing : middle.closeCursor cursor with ⟨outcome, closed⟩
  cases outcome with
  | none =>
      have pulled : source.pull (.reading cursor) session = (none, closed) := by
        simp only [pull, pullReading, fetched, closing]
      have complete : source.Agrees (.reading cursor) session collected []
          (.ok (collected ++ []), closed) := .complete [] [] rfl (.nil _ _) pulled
      rwa [List.append_nil] at complete
  | some error =>
      have pulled : source.pull (.reading cursor) session =
          (some (.error error, .done), closed) := by
        simp only [pull, pullReading, fetched, closing]
      exact .failed [] [] rfl (.cons pulled (.nil _ _))

/-- A stream that hands out the record of a row follows a loop that has collected it. -/
theorem Follows.cons
    {record : Record}
    {fed : Except Error (List Record) × Session}
    (fetched : session.fetch cursor = (.row row, middle))
    (oneRow : middle.rowCount = session.rowCount + 1)
    (ahead : cursor.rows = row :: cursor.advance.rows)
    (read : source.readRow row = .ok record)
    (follows : source.Follows cursor.advance (collected ++ [record]) middle fed) :
    source.Follows cursor collected session fed := by
  have pulled : source.pull (.reading cursor) session =
      (some (.ok record, .reading cursor.advance), middle) := by
    simp only [pull, pullReading, fetched, read]
  obtain ⟨served, inOrder, counted, agrees⟩ := follows
  rw [Session.conclude_advance] at agrees
  refine ⟨row :: served, ?_, ?_, agrees.cons read pulled⟩
  · rw [ahead]
    exact (List.prefix_cons_inj row).mpr inOrder
  · rw [counted, oneRow, List.length_cons]
    omega

end Following

/-- The records of rows, after those that are there already. -/
def collect (source : StreamSource) (records : List Record) (row : Row) :
    Except Error (List Record) := do
  let record ← source.readRow row
  return records ++ [record]

theorem collect_eq
    (source : StreamSource)
    (records : List Record)
    (row : Row) :
    source.collect records row =
      match source.readRow row with
      | .ok record => .ok (records ++ [record])
      | .error error => .error error := by
  unfold collect
  cases source.readRow row <;> rfl

/-- From any point on, an open stream follows the loop over the same cursor. -/
theorem follows_feedRows
    (source : StreamSource)
    (cursor : Cursor)
    (collected : List Record)
    (session : Session) :
    source.Follows cursor collected session
      (Session.feedRows cursor.columns source.collect none cursor.fetches collected
        session) := by
  have room : (none : Option Nat) ≠ some 0 := by simp
  -- Each record leaves the cursor one reply, so the induction is on the replies left.
  induction replies : cursor.fetches generalizing cursor collected session with
  | nil =>
      cases unfired : session.fired with
      | true =>
          rw [Session.feedRows_of_fired room unfired]
          exact .failed (Session.fetchReply_of_fired unfired _) rfl
      | false =>
          rw [Session.feedRows_nil room unfired]
          refine .finished ?_ (by simp [Session.rowCount])
          rw [Session.fetch, replies, Session.fetchReply_of_unfired unfired]
          rfl
  | cons reply rest inductionHypothesis =>
      cases unfired : session.fired with
      | true =>
          rw [Session.feedRows_of_fired room unfired]
          exact .failed (Session.fetchReply_of_fired unfired _) rfl
      | false =>
          have fetched : session.fetch cursor =
              session.answerFetch cursor.columns (some reply) := by
            rw [Session.fetch, replies, Session.fetchReply_of_unfired unfired]
            rfl
          rw [Session.feedRows_cons room unfired reply]
          cases reply with
          | failure reason =>
              exact .failed fetched (by simp [Session.rowCount])
          | interrupted =>
              exact .failed fetched (by simp [Session.rowCount])
          | row cells fires =>
              have left : cursor.advance.fetches = rest := by
                rw [Cursor.advance, replies]
                rfl
              have ahead : cursor.rows =
                  ⟨cursor.columns, cells⟩ :: cursor.advance.rows := by
                rw [Cursor.rows, Cursor.rows, left, replies]
                rfl
              have oneRow : (session.afterRow fires).rowCount = session.rowCount + 1 := by
                simp [Session.rowCount]
              simp only [Session.answerFetch, collect_eq]
              cases read : source.readRow ⟨cursor.columns, cells⟩ with
              | error error => exact .refused fetched oneRow ahead read
              | ok record =>
                  exact .cons fetched oneRow ahead read
                    (inductionHypothesis cursor.advance _ _ left)

end StreamSource

/-! ## Whole streams -/

/-- The rows of the cursor that opening a statement returns, if it returns one. -/
def Session.openedRows (session : Session) (logged : Bool) (statement : Statement) : List Row :=
  match session.openCursor logged statement with
  | (.ok cursor, _) => cursor.rows
  | (.error _, _) => []

/-- Opening takes no rows. -/
theorem Session.rowCount_openCursor
    (session : Session)
    (logged : Bool)
    (statement : Statement) :
    (session.openCursor logged statement).2.rowCount = session.rowCount := by
  rw [rowCount, calls_openCursor]
  cases session.fired with
  | true => rfl
  | false =>
      simp only [Bool.false_eq_true, if_false]
      rw [List.count_append]
      rfl

namespace Database

variable (database : Database) (query : Query) (session : Session)

/-- What the stream of a query reads. -/
def streamSource : StreamSource :=
  ⟨database.dialect, database.logged, query.root, query.only, query.toSelect⟩

/-- The stream of a query agrees with its selection from the start. -/
theorem agrees_select :
    ∃ served,
      served <+: session.openedRows database.logged query.toSelect ∧
      (database.select query session).2.rowCount = session.rowCount + served.length ∧
      (database.streamSource query).Agrees .pending session [] served
        (database.select query session) := by
  have noRow := session.rowCount_openCursor database.logged query.toSelect
  unfold Session.openedRows
  rcases answer : session.openCursor database.logged query.toSelect with ⟨outcome, opened⟩
  rw [answer] at noRow
  cases outcome with
  | error error =>
      have stopped : database.select query session = (.error error, opened) :=
        Session.drain_of_error answer
      have pulled : (database.streamSource query).pull .pending session =
          (some (.error error, .done), opened) := by
        simp only [StreamSource.pull, streamSource, answer]
      rw [stopped]
      exact ⟨[], List.nil_prefix, noRow, .failed [] [] rfl (.cons pulled (.nil _ _))⟩
  | ok cursor =>
      have drained : database.select query session = _ := Session.drain_eq_conclude answer
      have asked : (database.streamSource query).pull .pending session =
          (database.streamSource query).pull (.reading cursor) opened := by
        simp only [StreamSource.pull, streamSource, answer]
      obtain ⟨served, inOrder, counted, agrees⟩ :=
        (database.streamSource query).follows_feedRows cursor [] opened
      rw [drained, Session.rowCount_conclude]
      refine ⟨served, inOrder, ?_, agrees.congr asked⟩
      rw [← noRow]
      exact counted

/--
A stream that is read to its end leaves the session that the selection leaves, with the
same calls and events. It hands out the records that the selection returns, or, if that
fails, the records of the rows that were handed out before, and then the same error,
after which it is done.
-/
theorem stream_select :
    (database.stream query none session).2 = (database.select query session).2 ∧
    (∀ records, (database.select query session).1 = .ok records →
      (database.stream query none session).1 = records.map .ok ∧
      ∃ last middle,
        (database.streamSource query).Yields .pending session (records.map .ok) last middle ∧
        (database.streamSource query).pull last middle =
          (none, (database.select query session).2)) ∧
    (∀ error, (database.select query session).1 = .error error →
      ∃ served records,
        served <+: session.openedRows database.logged query.toSelect ∧
        (database.select query session).2.rowCount = session.rowCount + served.length ∧
        (served.mapM (database.readRecord query.root query.only) = .ok records ∨
          ∃ front row,
            served = front ++ [row] ∧
            front.mapM (database.readRecord query.root query.only) = .ok records ∧
            database.readRecord query.root query.only row = .error error) ∧
        (database.stream query none session).1 = records.map .ok ++ [.error error] ∧
        (database.streamSource query).Yields .pending session
          (records.map .ok ++ [.error error]) .done (database.select query session).2 ∧
        ∀ later, (database.streamSource query).pull .done later = (none, later)) := by
  obtain ⟨served, inOrder, counted, agrees⟩ := database.agrees_select query session
  generalize database.select query session = selected at *
  cases agrees with
  | complete _ records read yields finished =>
      have items := StreamSource.items_of_yields yields finished
      refine ⟨congrArg Prod.snd items, ?_, ?_⟩
      · rintro _ ⟨⟩
        exact ⟨congrArg Prod.fst items, _, _, yields, finished⟩
      · rintro _ ⟨⟩
  | failed _ records read yields =>
      have items := StreamSource.items_of_yields yields rfl
      refine ⟨congrArg Prod.snd items, ?_, ?_⟩
      · rintro _ ⟨⟩
      · rintro _ ⟨⟩
        exact ⟨served, records, inOrder, counted, .inl read, congrArg Prod.fst items, yields,
          fun _ => rfl⟩
  | refused front row records read refusal yields =>
      have items := StreamSource.items_of_yields yields rfl
      refine ⟨congrArg Prod.snd items, ?_, ?_⟩
      · rintro _ ⟨⟩
      · rintro _ ⟨⟩
        exact ⟨_, records, inOrder, counted, .inr ⟨front, row, rfl, read, refusal⟩,
          congrArg Prod.fst items, yields, fun _ => rfl⟩

/--
A stream of two numbers ends after them; one whose second fetch fails, and whose cursor
cannot be closed, hands out one number and the failure of the fetch.
-/
theorem stream_select_numbers :
    (Sample.database.select Sample.numbers (Sample.session Sample.healthy)).1 =
        .ok [Sample.number 1, Sample.number 2] ∧
      (Sample.database.stream Sample.numbers none (Sample.session Sample.healthy)).1 =
        [.ok (Sample.number 1), .ok (Sample.number 2)] ∧
      (Sample.database.select Sample.numbers (Sample.session Sample.failing)).1 =
        .error (.execution (.reported "lost")) ∧
      Sample.database.stream Sample.numbers none (Sample.session Sample.failing) =
        ([.ok (Sample.number 1), .error (.execution (.reported "lost"))],
          ⟨false, [], [.open Sample.numbers.toSelect, .fetch true, .fetch false, .close],
            [.executing Sample.numbers.toSelect.sql 0,
              .closeFailed (Error.execution (.reported "stuck")).message]⟩) := by
  obtain ⟨_, complete, _⟩ :=
    stream_select Sample.database Sample.numbers (Sample.session Sample.healthy)
  obtain ⟨sameSession, _, failed⟩ :=
    stream_select Sample.database Sample.numbers (Sample.session Sample.failing)
  obtain ⟨healthyItems, _⟩ := complete [Sample.number 1, Sample.number 2] rfl
  obtain ⟨served, records, inOrder, counted, read, failedItems, _⟩ :=
    failed (.execution (.reported "lost")) rfl
  have one : served.length = 1 := Nat.add_left_cancel counted.symm
  obtain rfl : served = [⟨["n"], [.integer 1]⟩] := inOrder.eq_of_length one
  refine ⟨rfl, healthyItems, rfl, Prod.ext ?_ sameSession⟩
  rcases read with read | ⟨front, row, split, _, refusal⟩
  · cases read
    exact failedItems
  · have same : row = ⟨["n"], [.integer 1]⟩ := by
      simpa using (congrArg List.getLast? split).symm
    subst same
    cases refusal

end Database
end TypedSql
