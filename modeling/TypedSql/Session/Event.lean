import TypedSql.Value.Basic

/-!
# Events

What an observer is told while statements are executed.
-/

namespace TypedSql

/-- The stages at which an operation notices that its token fired. -/
inductive Stage
  | opening
  | fetching
  | loading
  deriving DecidableEq

/-- The name of a stage. -/
def Stage.label : Stage → String
  | .opening => "open"
  | .fetching => "fetch"
  | .loading => "load"

/-- Something that an observer is told. -/
inductive Event
  /-- A statement is about to be executed. -/
  | executing (sql : String) (parameters : Nat)
  /-- An operation stops because its token fired. -/
  | cancelled (stage : Stage)
  /-- A relation is about to be loaded onto parents. -/
  | loading (relation : String) (parents : Nat)
  /-- A cursor could not be closed after an operation had failed. -/
  | closeFailed (reason : String)
  deriving DecidableEq

namespace Event

/-- The level of an event. -/
def level : Event → String
  | .loading .. => "TRACE"
  | _ => "DEBUG"

/-- The name of an event. -/
def title : Event → String
  | .executing .. => "tessera.query"
  | .cancelled _ => "tessera.cancelled"
  | .loading .. => "tessera.load"
  | .closeFailed _ => "tessera.close_failed"

/-- The named details of an event. -/
def details : Event → List (String × String)
  | .executing sql parameters => [("sql", sql), ("params", toString parameters)]
  | .cancelled stage => [("stage", stage.label)]
  | .loading relation parents => [("relation", relation), ("parents", toString parents)]
  | .closeFailed reason => [("error", reason)]

end Event
end TypedSql
