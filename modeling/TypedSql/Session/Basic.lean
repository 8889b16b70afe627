import TypedSql.Error
import TypedSql.Session.Connection
import TypedSql.Session.Event

/-!
# Sessions

A session is the state that an operation works on: the cancellation token, the
replies that the connection has still to give, the calls that reached it, and
the events that were emitted. Opening and fetching look at the token first and
start nothing once it has fired; closing always reaches the connection.
-/

namespace TypedSql

/-- The state that an operation works on. -/
structure Session where
  /-- Whether the cancellation token has fired. -/
  fired : Bool
  /-- The replies to the statements still to be opened. -/
  replies : List OpenReply
  /-- The calls that reached the connection, the first one first. -/
  calls : List ConnectionCall
  /-- The events that were emitted, the first one first. -/
  events : List Event
  deriving DecidableEq

/-- An operation that may fail. -/
abbrev Action (α : Type) := ExceptT Error (StateM Session) α

/-- What comes of a fetch. -/
inductive Fetched
  | row (row : Row)
  | finished
  | failed (error : Error)
  deriving DecidableEq

namespace Session

/-- A session before its first operation. -/
def start (fired : Bool) (replies : List OpenReply) : Session :=
  ⟨fired, replies, [], []⟩

/-- The session after an event. -/
def emit (session : Session) (event : Event) : Session :=
  { session with events := session.events ++ [event] }

/-- The session after a call to the connection. -/
def note (session : Session) (call : ConnectionCall) : Session :=
  { session with calls := session.calls ++ [call] }

/-- The session after the token has fired, if it fires. -/
def fireIf (session : Session) (fires : Bool) : Session :=
  { session with fired := session.fired || fires }

@[simp] theorem calls_emit (session : Session) (event : Event) :
    (session.emit event).calls = session.calls := rfl

@[simp] theorem events_emit (session : Session) (event : Event) :
    (session.emit event).events = session.events ++ [event] := rfl

@[simp] theorem calls_note (session : Session) (call : ConnectionCall) :
    (session.note call).calls = session.calls ++ [call] := rfl

@[simp] theorem events_note (session : Session) (call : ConnectionCall) :
    (session.note call).events = session.events := rfl

@[simp] theorem fired_note (session : Session) (call : ConnectionCall) :
    (session.note call).fired = session.fired := rfl

@[simp] theorem calls_fireIf (session : Session) (fires : Bool) :
    (session.fireIf fires).calls = session.calls := rfl

@[simp] theorem events_fireIf (session : Session) (fires : Bool) :
    (session.fireIf fires).events = session.events := rfl

@[simp] theorem fired_fireIf (session : Session) (fires : Bool) :
    (session.fireIf fires).fired = (session.fired || fires) := rfl

/-- The session after the token has fired. -/
def fire (session : Session) : Session :=
  session.fireIf true

@[simp] theorem calls_fire (session : Session) :
    session.fire.calls = session.calls := rfl

@[simp] theorem events_fire (session : Session) :
    session.fire.events = session.events := rfl

/-- The error of an operation that stops because the token fired. -/
def stop (session : Session) (stage : Stage) : Error × Session :=
  (.cancelled, session.emit (.cancelled stage))

/-- What comes of the connection's reply to a statement. -/
def answerOpen (session : Session) : OpenReply → Except Error Cursor × Session
  | .interrupted =>
      let (error, after) := session.fire.stop .opening
      (.error error, after)
  | .failure reason fires => (.error (.execution (.reported reason)), session.fireIf fires)
  | .cursor cursor fires => (.ok cursor, session.fireIf fires)

/-- The session after the event of a statement, if statements are logged. -/
def announce (session : Session) (logged : Bool) (statement : Statement) : Session :=
  if logged then session.emit (.executing statement.sql statement.parameters.length)
  else session

/-- Opens a statement; once no reply is left, every statement has no rows. -/
def openCursor
    (logged : Bool)
    (statement : Statement)
    (session : Session) :
    Except Error Cursor × Session :=
  if session.fired then
    let (error, after) := session.stop .opening
    (.error error, after)
  else
    let called := (session.announce logged statement).note (.open statement)
    match called.replies with
    | [] => (.ok .empty, called)
    | reply :: rest => { called with replies := rest }.answerOpen reply

/-- What comes of a cursor's reply to a fetch, or of having none left. -/
def answerFetch
    (columns : List String)
    (session : Session) :
    Option FetchReply → Fetched × Session
  | none => (.finished, session.note (.fetch false))
  | some .interrupted =>
      let (error, after) := (session.note (.fetch false)).fire.stop .fetching
      (.failed error, after)
  | some (.failure reason) =>
      (.failed (.execution (.reported reason)), session.note (.fetch false))
  | some (.row cells fires) =>
      (.row ⟨columns, cells⟩, (session.note (.fetch true)).fireIf fires)

/-- Fetches with a cursor whose next reply is given. -/
def fetchReply
    (columns : List String)
    (reply : Option FetchReply)
    (session : Session) :
    Fetched × Session :=
  if session.fired then
    let (error, after) := session.stop .fetching
    (.failed error, after)
  else
    session.answerFetch columns reply

/-- Fetches with a cursor. -/
def fetch (cursor : Cursor) (session : Session) : Fetched × Session :=
  session.fetchReply cursor.columns cursor.fetches.head?

/-- Closes a cursor, and tells why it could not be closed, if so. -/
def closeCursor (cursor : Cursor) (session : Session) : Option Error × Session :=
  (cursor.closeFailure.map fun reason => .execution (.reported reason),
    (session.note .close).fireIf cursor.closeFires)

/-- The statements that were opened, the first one first. -/
def statements (session : Session) : List Statement :=
  session.calls.filterMap fun
    | .open statement => some statement
    | _ => none

/-- The number of statements that were opened. -/
def openCount (session : Session) : Nat :=
  session.statements.length

/-- The number of rows that were handed out. -/
def rowCount (session : Session) : Nat :=
  session.calls.count (.fetch true)

/-- The number of times that a cursor was closed. -/
def closeCount (session : Session) : Nat :=
  session.calls.count .close

end Session
end TypedSql
