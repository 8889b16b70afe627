import TypedSql.Record.Mapper
import TypedSql.Session.Basic

/-!
# Streams

A stream hands out the records of a statement as they are fetched. It is a
machine with three states: its statement is yet to be opened, its cursor is
open, or it is done. Items handed out before a failure stay valid, and a failure
is the last item.
-/

namespace TypedSql

/-- What a stream reads. -/
structure StreamSource where
  dialect : Dialect
  logged : Bool
  shape : Shape
  only : Restriction
  statement : Statement

/-- How far a stream has come. -/
inductive StreamState
  /-- The statement has yet to be opened. -/
  | pending
  /-- The cursor is open. -/
  | reading (cursor : Cursor)
  | done
  deriving DecidableEq

namespace StreamState

/-- The number of states that are still ahead. -/
def phase : StreamState → Nat
  | .pending => 2
  | .reading _ => 1
  | .done => 0

/-- The number of replies that the cursor has left. -/
def remaining : StreamState → Nat
  | .reading cursor => cursor.fetches.length
  | _ => 0

end StreamState

/-- An item of a stream: a record, or the failure that ends the stream. -/
abbrev StreamItem := Except Error Record

/-- What comes of asking a stream for an item: the item and the next state, or the end. -/
abbrev Pulled := Option (StreamItem × StreamState)

namespace StreamSource

/-- The record of a row. -/
def readRow (source : StreamSource) (row : Row) : Except Error Record :=
  (Mapper.ofColumns source.shape row.columns source.only).read source.dialect row

/-- Ends a stream by a failure; an error of closing is told to the observer only. -/
def fail (cursor : Cursor) (error : Error) (session : Session) : Pulled × Session :=
  match session.closeCursor cursor with
  | (none, closed) => (some (.error error, .done), closed)
  | (some second, closed) =>
      (some (.error error, .done), closed.emit (.closeFailed second.message))

/-- Asks an open stream for an item. -/
def pullReading
    (source : StreamSource)
    (cursor : Cursor)
    (session : Session) :
    Pulled × Session :=
  match session.fetch cursor with
  | (.finished, after) =>
      match after.closeCursor cursor with
      | (none, closed) => (none, closed)
      | (some error, closed) => (some (.error error, .done), closed)
  | (.failed error, after) => fail cursor error after
  | (.row row, after) =>
      match source.readRow row with
      | .error error => fail cursor error after
      | .ok record => (some (.ok record, .reading cursor.advance), after)

/-- Asks a stream for an item. -/
def pull (source : StreamSource) : StreamState → Session → Pulled × Session
  | .done, session => (none, session)
  | .reading cursor, session => source.pullReading cursor session
  | .pending, session =>
      match session.openCursor source.logged source.statement with
      | (.error error, after) => (some (.error error, .done), after)
      | (.ok cursor, opened) => source.pullReading cursor opened

/-- After a failure a stream is done. -/
theorem fail_state
    {cursor : Cursor}
    {error : Error}
    {session after : Session}
    {item : StreamItem}
    {next : StreamState}
    (pulled : fail cursor error session = (some (item, next), after)) :
    next = .done := by
  unfold fail at pulled
  split at pulled <;> simp_all

/-- An open stream moves on in its cursor or is done. -/
theorem pullReading_state
    {source : StreamSource}
    {cursor : Cursor}
    {session after : Session}
    {item : StreamItem}
    {next : StreamState}
    (pulled : source.pullReading cursor session = (some (item, next), after)) :
    next = .done ∨ (next = .reading cursor.advance ∧ cursor.fetches ≠ []) := by
  unfold pullReading at pulled
  split at pulled
  · split at pulled <;> simp_all
  · exact .inl (fail_state pulled)
  · next row reached fetched =>
    have hasReply : cursor.fetches ≠ [] := by
      intro noReply
      simp [Session.fetch, noReply, Session.fetchReply, Session.answerFetch] at fetched
      split at fetched <;> simp_all [Session.stop]
    split at pulled
    · exact .inl (fail_state pulled)
    · simp_all

/-- Each item brings a stream closer to its end. -/
theorem pull_state
    {source : StreamSource}
    {state next : StreamState}
    {session after : Session}
    {item : StreamItem}
    (pulled : source.pull state session = (some (item, next), after)) :
    next.phase < state.phase ∨
      (next.phase = state.phase ∧ next.remaining < state.remaining) := by
  cases state with
  | done => simp [pull] at pulled
  | reading cursor =>
      rcases pullReading_state (by simpa [pull] using pulled) with rfl | ⟨rfl, hasReply⟩
      · exact .inl (by simp [StreamState.phase])
      · refine .inr ⟨rfl, ?_⟩
        cases replies : cursor.fetches with
        | nil => exact absurd replies hasReply
        | cons reply rest => simp [StreamState.remaining, Cursor.advance, replies]
  | pending =>
      simp only [pull] at pulled
      split at pulled
      · simp only [Prod.mk.injEq, Option.some.injEq] at pulled
        obtain ⟨⟨_, rfl⟩, _⟩ := pulled
        exact .inl (by simp [StreamState.phase])
      · rcases pullReading_state pulled with rfl | ⟨rfl, _⟩ <;>
          exact .inl (by simp [StreamState.phase])

/-- The items of a stream until it ends or `budget` items have been taken. -/
def items
    (source : StreamSource)
    (budget : Option Nat)
    (state : StreamState)
    (session : Session) :
    List StreamItem × Session :=
  if budget = some 0 then ([], session)
  else
    match _pulled : source.pull state session with
    | (none, after) => ([], after)
    | (some (item, next), after) =>
        let (rest, final) := items source (budget.map Nat.pred) next after
        (item :: rest, final)
termination_by (state.phase, state.remaining)
decreasing_by
  rcases pull_state _pulled with fewer | ⟨same, fewer⟩
  · exact Prod.Lex.left _ _ fewer
  · exact same ▸ Prod.Lex.right _ fewer

/-- The items of a fresh stream. -/
def run
    (source : StreamSource)
    (budget : Option Nat)
    (session : Session) :
    List StreamItem × Session :=
  source.items budget .pending session

end StreamSource
end TypedSql
