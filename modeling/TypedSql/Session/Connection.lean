import TypedSql.Row.Basic
import TypedSql.Sql.Statement

/-!
# Connections

A connection is described by its replies: what it does each time a statement is
opened, and what the cursor it returns does at each fetch and at the end. A
reply may make the cancellation token fire, before it completes or instead of
completing.
-/

namespace TypedSql

/-- What a cursor does at a fetch. -/
inductive FetchReply
  /-- It hands out a row; the token fires meanwhile if `fires`. -/
  | row (cells : List Value) (fires : Bool)
  | failure (reason : String)
  /-- It does not complete before the token fires. -/
  | interrupted
  deriving DecidableEq

/-- What a cursor does. After the fetches that are listed it has no more rows. -/
structure Cursor where
  columns : List String
  fetches : List FetchReply
  /-- Whether the token fires while the cursor is closed. -/
  closeFires : Bool
  /-- Why the cursor cannot be closed, if it cannot. -/
  closeFailure : Option String
  deriving DecidableEq

namespace Cursor

/-- A cursor without columns and rows. -/
def empty : Cursor := ⟨[], [], false, none⟩

/-- The cursor after a fetch. -/
def advance (cursor : Cursor) : Cursor :=
  { cursor with fetches := cursor.fetches.tail }

@[simp] theorem columns_advance (cursor : Cursor) :
    cursor.advance.columns = cursor.columns := rfl

end Cursor

/-- What a connection does when a statement is opened. -/
inductive OpenReply
  /-- It returns a cursor; the token fires meanwhile if `fires`. -/
  | cursor (cursor : Cursor) (fires : Bool)
  | failure (reason : String) (fires : Bool)
  /-- It does not complete before the token fires. -/
  | interrupted
  deriving DecidableEq

/-- A call that reached the connection. -/
inductive ConnectionCall
  | open (statement : Statement)
  /-- A fetch, which handed out a row or did not. -/
  | fetch (found : Bool)
  | close
  deriving DecidableEq

end TypedSql
