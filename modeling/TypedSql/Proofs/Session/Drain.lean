import TypedSql.Database
import TypedSql.Dialect.Vendor
import TypedSql.Proofs.Session.Feeding

/-!
# What draining a statement does

A statement is opened once, its cursor is closed once after its rows were fed to a
step, and an error of the rows wins over one of closing. Selections are drained
statements whose step collects records.
-/

namespace TypedSql
namespace Session

/-! ## Opening and closing -/

section Opening

variable {logged : Bool} {statement : Statement} {session opened : Session}

@[simp] theorem calls_announce (session : Session) (logged : Bool) (statement : Statement) :
    (session.announce logged statement).calls = session.calls := by
  cases logged <;> rfl

theorem calls_answerOpen (session : Session) (reply : OpenReply) :
    (session.answerOpen reply).2.calls = session.calls := by
  cases reply <;> rfl

theorem events_answerOpen
    {cursor : Cursor}
    {reply : OpenReply}
    (answered : session.answerOpen reply = (.ok cursor, opened)) :
    opened.events = session.events := by
  cases reply with
  | cursor found fires =>
      cases answered
      rfl
  | failure reason fires => cases answered
  | interrupted => cases answered

/-- Opening a statement reaches the connection once, unless the token has fired. -/
theorem calls_openCursor (session : Session) (logged : Bool) (statement : Statement) :
    (session.openCursor logged statement).2.calls =
      if session.fired then session.calls else session.calls ++ [.open statement] := by
  unfold openCursor
  cases session.fired with
  | true => rfl
  | false =>
      simp only [Bool.false_eq_true, if_false]
      split
      · rw [calls_note, calls_announce]
      · rw [calls_answerOpen]
        exact congrArg (· ++ [.open statement]) (calls_announce session logged statement)

theorem openCursor_ok
    {cursor : Cursor}
    (returned : session.openCursor logged statement = (.ok cursor, opened)) :
    session.fired = false ∧
      opened.calls = session.calls ++ [.open statement] ∧
      opened.events = (session.announce logged statement).events := by
  have calls := calls_openCursor session logged statement
  rw [returned] at calls
  unfold openCursor at returned
  cases unfired : session.fired with
  | true =>
      rw [unfired] at returned
      cases returned
  | false =>
      refine ⟨rfl, ?_, ?_⟩
      · rw [unfired] at calls
        exact calls
      · rw [unfired] at returned
        simp only [Bool.false_eq_true, if_false] at returned
        split at returned
        · cases returned
          rfl
        · have sameEvents := events_answerOpen returned
          exact sameEvents

end Opening

section Closing

variable {σ : Type} {cursor : Cursor}

/-- What closing a cursor makes of what the feeding of its rows did. -/
structure Closed (cursor : Cursor) (fed drained : Except Error σ × Session) : Prop where
  calls : drained.2.calls = fed.2.calls ++ [.close]
  /-- An error of the rows wins, and one of closing is told to the observer only. -/
  failed : ∀ error, fed.1 = .error error →
    drained.1 = .error error ∧
      drained.2.events = fed.2.events ++ cursor.closeFailure.toList.map fun reason =>
        .closeFailed (Error.execution (.reported reason)).message
  unclosed : ∀ result reason, fed.1 = .ok result → cursor.closeFailure = some reason →
    drained.1 = .error (.execution (.reported reason)) ∧ drained.2.events = fed.2.events
  closed : ∀ result, fed.1 = .ok result → cursor.closeFailure = none →
    drained.1 = .ok result ∧ drained.2.events = fed.2.events

theorem Closed.succeeded
    {fed drained : Except Error σ × Session}
    {result : σ}
    (closed : Closed cursor fed drained)
    (succeeded : drained.1 = .ok result) :
    fed.1 = .ok result := by
  cases outcome : fed.1 with
  | error error =>
      rw [(closed.failed error outcome).1] at succeeded
      cases succeeded
  | ok reached =>
      cases failure : cursor.closeFailure with
      | some reason =>
          rw [(closed.unclosed reached reason outcome failure).1] at succeeded
          cases succeeded
      | none =>
          rw [(closed.closed reached outcome failure).1] at succeeded
          exact succeeded

theorem settle_closed (cursor : Cursor) (outcome : Except Error σ) (session : Session) :
    Closed cursor (outcome, session)
      ((session.closeCursor cursor).2.settle outcome (session.closeCursor cursor).1) := by
  unfold closeCursor
  cases failure : cursor.closeFailure with
  | none =>
      cases outcome with
      | ok result => constructor <;> simp [settle, failure]
      | error error => constructor <;> simp [settle, failure]
  | some reason =>
      cases outcome with
      | ok result => constructor <;> simp [settle, failure]
      | error error => constructor <;> simp [settle, failure]

variable
  {logged : Bool}
  {statement : Statement}
  {budget : Option Nat}
  {step : σ → Row → Except Error σ}
  {initial : σ}
  {session opened : Session}

theorem drain_of_error
    {error : Error}
    (refused : session.openCursor logged statement = (.error error, opened)) :
    session.drain logged statement budget step initial = (.error error, opened) := by
  rw [drain, refused]

/-- The cursor of an opened statement is closed after its rows were fed. -/
theorem drain_of_ok
    (returned : session.openCursor logged statement = (.ok cursor, opened)) :
    Closed cursor (feedRows cursor.columns step budget cursor.fetches initial opened)
      (session.drain logged statement budget step initial) := by
  rw [drain, returned]
  exact settle_closed cursor _ _

end Closing

end Session

namespace Database

/-- The record of a row. -/
def readRecord
    (database : Database)
    (shape : Shape)
    (only : Restriction)
    (row : Row) :
    Except Error Record :=
  (Mapper.ofColumns shape row.columns only).read database.dialect row

/-- Rows that are read one after the other are read as a list. -/
theorem foldlM_recordStep
    {database : Database}
    {shape : Shape}
    {only : Restriction}
    {rows : List Row} :
    ∀ {records result}, rows.foldlM (database.recordStep shape only) records = .ok result →
      ∃ more, rows.mapM (database.readRecord shape only) = .ok more ∧
        result = records ++ more := by
  induction rows with
  | nil =>
      intro records result folded
      cases folded
      exact ⟨[], rfl, (List.append_nil _).symm⟩
  | cons row rows inductionHypothesis =>
      intro records result folded
      rw [List.foldlM_cons] at folded
      obtain ⟨next, stepped, others⟩ := bind_eq_ok.mp folded
      obtain ⟨record, read, appended⟩ := bind_eq_ok.mp stepped
      obtain rfl := pure_eq_ok.mp appended
      obtain ⟨more, othersRead, rfl⟩ := inductionHypothesis others
      refine ⟨record :: more, ?_, ?_⟩
      · rw [List.mapM_cons]
        exact bind_eq_ok.mpr ⟨record, read, bind_eq_ok.mpr ⟨more, othersRead, rfl⟩⟩
      · rw [List.append_assoc, List.singleton_append]

/-- A selection that succeeds returns the records of all rows of its cursor. -/
theorem rows_of_select
    {database : Database}
    {query : Query}
    {session after : Session}
    {records : List Record}
    (selected : database.select query session = (.ok records, after)) :
    ∃ cursor opened,
      session.openCursor database.logged query.toSelect = (.ok cursor, opened) ∧
      cursor.rows.length = cursor.fetches.length ∧
      cursor.rows.mapM (database.readRecord query.root query.only) = .ok records := by
  rcases answer : session.openCursor database.logged query.toSelect with ⟨outcome, opened⟩
  cases outcome with
  | error error =>
      have stopped : database.select query session = (.error error, opened) :=
        Session.drain_of_error answer
      rw [stopped] at selected
      cases selected
  | ok cursor =>
      have closed : Session.Closed cursor _ (database.select query session) :=
        Session.drain_of_ok answer
      obtain ⟨seen, last, noticed, fed⟩ :=
        Session.feedRows_fed cursor.columns cursor.fetches none
          (database.recordStep query.root query.only) [] opened
      have succeeded := closed.succeeded (congrArg Prod.fst selected)
      rw [← Prod.eta (Session.feedRows _ _ _ _ _ _), succeeded] at fed
      obtain ⟨rfl, complete, folded⟩ := fed.all
      obtain ⟨more, read, rfl⟩ := foldlM_recordStep folded
      exact ⟨cursor, opened, rfl, complete, read⟩

/--
A drained statement whose cursor was returned has its rows fed to the step in order,
up to the first thing that ends the feeding, and its cursor closed once thereafter;
one that could not be opened does nothing more. A selection that succeeds returns
the records of all rows of its cursor.
-/
theorem drain_lifecycle
    {σ : Type}
    (database : Database)
    (statement : Statement)
    (budget : Option Nat)
    (step : σ → Row → Except Error σ)
    (initial : σ)
    (query : Query)
    (session : Session) :
    (∀ error stopped,
      session.openCursor database.logged statement = (.error error, stopped) →
        database.drain statement budget step initial session = (.error error, stopped) ∧
          (stopped.calls = session.calls ∨
            stopped.calls = session.calls ++ [.open statement])) ∧
    (∀ cursor opened,
      session.openCursor database.logged statement = (.ok cursor, opened) →
        ∃ seen last noticed fed,
          Session.Fed cursor.columns cursor.fetches budget step initial opened seen last
            noticed fed ∧
          Session.Closed cursor fed (database.drain statement budget step initial session) ∧
          (database.drain statement budget step initial session).2.calls =
            session.calls ++ [.open statement] ++ List.replicate seen.length (.fetch true) ++
              last ++ [.close]) ∧
    (∀ records after,
      database.select query session = (.ok records, after) →
        ∃ cursor opened,
          session.openCursor database.logged query.toSelect = (.ok cursor, opened) ∧
          cursor.rows.length = cursor.fetches.length ∧
          cursor.rows.mapM (database.readRecord query.root query.only) = .ok records) := by
  refine ⟨?_, ?_, ?_⟩
  · intro error stopped refused
    refine ⟨Session.drain_of_error refused, ?_⟩
    have calls := Session.calls_openCursor session database.logged statement
    rw [refused] at calls
    cases fired : session.fired with
    | true => exact .inl (by simpa [fired] using calls)
    | false => exact .inr (by simpa [fired] using calls)
  · intro cursor opened returned
    obtain ⟨seen, last, noticed, fed⟩ :=
      Session.feedRows_fed cursor.columns cursor.fetches budget step initial opened
    have closed : Session.Closed cursor _
        (database.drain statement budget step initial session) :=
      Session.drain_of_ok returned
    refine ⟨seen, last, noticed, _, fed, closed, ?_⟩
    obtain ⟨_, openedCalls, _⟩ := Session.openCursor_ok returned
    rw [closed.calls, fed.calls, openedCalls]
  · intro records after selected
    exact rows_of_select selected

end Database

namespace Sample

/-- A database that logs its statements. -/
def database : Database := ⟨Vendor.postgresql.dialect, true⟩

/-- All rows of a table of numbers. -/
def numbers : Query := database.source ⟨"numbers", [⟨"n", "n", ⟨.integer .signed64, false⟩⟩]⟩

/-- A cursor that hands out one row before it fails, and that cannot be closed. -/
def failing : Cursor := ⟨["n"], [.row [.integer 1] false, .failure "lost"], false, some "stuck"⟩

/-- A cursor that hands out two rows. -/
def healthy : Cursor :=
  ⟨["n"], [.row [.integer 1] false, .row [.integer 2] false], false, none⟩

/-- A session whose connection answers with a cursor. -/
def session (cursor : Cursor) : Session := .start false [.cursor cursor false]

/-- The session after the statement for the numbers was opened. -/
def opened : Session :=
  ⟨false, [], [.open numbers.toSelect], [.executing numbers.toSelect.sql 0]⟩

/-- The record of a number. -/
def number (value : Int64) : Record := ⟨numbers.root, [.integer value]⟩

end Sample

namespace Database

/--
Nothing reaches the connection once the token has fired, a cursor that fails twice is
closed once, and two numbers are selected in order.
-/
theorem drain_lifecycle_numbers :
    (Session.start true []).openCursor true Sample.numbers.toSelect =
        (.error .cancelled, ⟨true, [], [], [.cancelled .opening]⟩) ∧
      Sample.database.drain Sample.numbers.toSelect none
          (Sample.database.recordStep Sample.numbers.root none) [] (Session.start true []) =
        (.error .cancelled, ⟨true, [], [], [.cancelled .opening]⟩) ∧
      (Sample.session Sample.failing).openCursor true Sample.numbers.toSelect =
        (.ok Sample.failing, Sample.opened) ∧
      (∃ seen last noticed fed,
        Session.Fed ["n"] Sample.failing.fetches (some 7)
          (Sample.database.recordStep Sample.numbers.root none) [] Sample.opened seen last
          noticed fed ∧
        Session.Closed Sample.failing fed
          (.error (.execution (.reported "lost")),
            ⟨false, [], [.open Sample.numbers.toSelect, .fetch true, .fetch false, .close],
              [.executing Sample.numbers.toSelect.sql 0,
                .closeFailed (Error.execution (.reported "stuck")).message]⟩)) ∧
      Sample.database.select Sample.numbers (Sample.session Sample.healthy) =
        (.ok [Sample.number 1, Sample.number 2],
          ⟨false, [], [.open Sample.numbers.toSelect, .fetch true, .fetch true, .fetch false,
            .close], [.executing Sample.numbers.toSelect.sql 0]⟩) ∧
      ∃ cursor opened,
        (Sample.session Sample.healthy).openCursor true Sample.numbers.toSelect =
          (.ok cursor, opened) ∧
        cursor.rows.length = cursor.fetches.length ∧
        cursor.rows.mapM (Sample.database.readRecord Sample.numbers.root none) =
          .ok [Sample.number 1, Sample.number 2] := by
  have stopped : (Session.start true []).openCursor true Sample.numbers.toSelect =
      (.error .cancelled, ⟨true, [], [], [.cancelled .opening]⟩) := rfl
  have drained := (drain_lifecycle Sample.database Sample.numbers.toSelect none
    (Sample.database.recordStep Sample.numbers.root none) [] Sample.numbers
    (Session.start true [])).1 _ _ stopped
  have returned : (Sample.session Sample.failing).openCursor true Sample.numbers.toSelect =
      (.ok Sample.failing, Sample.opened) := rfl
  obtain ⟨seen, last, noticed, fed, hasFed, closed, _⟩ :=
    (drain_lifecycle Sample.database Sample.numbers.toSelect (some 7)
      (Sample.database.recordStep Sample.numbers.root none) [] Sample.numbers
      (Sample.session Sample.failing)).2.1 _ _ returned
  have selected : Sample.database.select Sample.numbers (Sample.session Sample.healthy) =
      (.ok [Sample.number 1, Sample.number 2],
        ⟨false, [], [.open Sample.numbers.toSelect, .fetch true, .fetch true, .fetch false,
          .close], [.executing Sample.numbers.toSelect.sql 0]⟩) := rfl
  refine ⟨stopped, drained.1, returned, ⟨seen, last, noticed, fed, hasFed, closed⟩, selected, ?_⟩
  exact (drain_lifecycle Sample.database Sample.numbers.toSelect none
    (Sample.database.recordStep Sample.numbers.root none) [] Sample.numbers
    (Sample.session Sample.healthy)).2.2 _ _ selected

end Database
end TypedSql
