import TypedSql.Session.Connection

/-!
# Scripts

A script tells in a few words how a connection answers one statement: the rows
that it has, and where it fails, stalls or makes the token fire. Where it both
stalls and fails, it stalls.
-/

namespace TypedSql

/-- The moments at which a connection may make the token fire. -/
inductive Moment
  /-- Opening does not complete. -/
  | whileOpening
  /-- Opening completes, or fails, thereafter. -/
  | onOpening
  /-- The fetch after some rows does not complete. -/
  | whileFetching (served : Nat)
  /-- The row after some rows is handed out nevertheless. -/
  | onRow (served : Nat)
  | onClosing
  deriving DecidableEq

/-- How a connection answers one statement. -/
structure Script where
  columns : List String
  rows : List (List Value)
  fires : Option Moment
  /-- Why the statement cannot be opened, if it cannot. -/
  openFailure : Option String
  /-- The number of rows after which a fetch fails, and why. -/
  fetchFailure : Option (Nat × String)
  /-- Why the cursor cannot be closed, if it cannot. -/
  closeFailure : Option String
  deriving DecidableEq

namespace Script

/-- What the cursor does at the fetches after `served` rows, when `rows` are left. -/
def fetches (script : Script) (served : Nat) (rows : List (List Value)) : List FetchReply :=
  if script.fires = some (.whileFetching served) then [.interrupted]
  else
    match script.fetchFailure.filter fun failure => failure.1 = served, rows with
    | some (_, reason), _ => [.failure reason]
    | none, [] => []
    | none, cells :: rest =>
        .row cells (script.fires = some (.onRow served)) :: fetches script (served + 1) rest

/-- The cursor that the script returns. -/
def cursor (script : Script) : Cursor :=
  ⟨script.columns, script.fetches 0 script.rows, script.fires = some .onClosing,
    script.closeFailure⟩

/-- What the connection does when the statement is opened. -/
def reply (script : Script) : OpenReply :=
  if script.fires = some .whileOpening then .interrupted
  else
    let fires : Bool := script.fires = some .onOpening
    match script.openFailure with
    | some reason => .failure reason fires
    | none => .cursor script.cursor fires

end Script
end TypedSql
