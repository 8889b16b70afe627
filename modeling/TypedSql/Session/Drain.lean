import TypedSql.Session.Basic

/-!
# Draining a statement

A statement is drained by opening it, feeding its rows one by one to a step, and
closing the cursor, whatever came of the rows. The error of the rows, if there
is one, wins over an error of closing, which is then told to the observer only.
-/

namespace TypedSql
namespace Session

/--
Feeds the rows of a cursor to a step until there are none left, `budget` rows
have been fed, or something fails.
-/
def feedRows
    (columns : List String)
    (step : σ → Row → Except Error σ) :
    Option Nat → List FetchReply → σ → Session → Except Error σ × Session
  | some 0, _, result, session => (.ok result, session)
  | _, [], result, session =>
      match session.fetchReply columns none with
      | (.failed error, after) => (.error error, after)
      | (_, after) => (.ok result, after)
  | budget, reply :: rest, result, session =>
      match session.fetchReply columns (some reply) with
      | (.failed error, after) => (.error error, after)
      | (.finished, after) => (.ok result, after)
      | (.row row, after) =>
          match step result row with
          | .error error => (.error error, after)
          | .ok next => feedRows columns step (budget.map Nat.pred) rest next after

/-- The outcome of an operation whose cursor has been closed. -/
def settle (outcome : Except Error σ) (closing : Option Error) (session : Session) :
    Except Error σ × Session :=
  match outcome, closing with
  | .ok result, none => (.ok result, session)
  | .ok _, some error => (.error error, session)
  | .error error, none => (.error error, session)
  | .error error, some second => (.error error, session.emit (.closeFailed second.message))

/-- Opens a statement, feeds its rows to a step, and closes the cursor. -/
def drain
    (logged : Bool)
    (statement : Statement)
    (budget : Option Nat)
    (step : σ → Row → Except Error σ)
    (initial : σ)
    (session : Session) :
    Except Error σ × Session :=
  match session.openCursor logged statement with
  | (.error error, after) => (.error error, after)
  | (.ok cursor, opened) =>
      let (outcome, fed) :=
        feedRows cursor.columns step budget cursor.fetches initial opened
      let (closing, closed) := fed.closeCursor cursor
      closed.settle outcome closing

end Session
end TypedSql
