import TypedSql.Proofs.Session.Undisturbed
import TypedSql.Relation.Load

/-!
# The operations of a database

The operations as data, so that a statement can be about all of them, and how they are put
together: from drained statements, checks of the token, what the observer is told, and steps
that need no connection. A stream that is read to its end stands beside the selection of the
same query.
-/

namespace TypedSql

/-- An operation of a database. -/
inductive Request
  | select (query : Query)
  | selectInto (query : Query) (target : Shape)
  | selectWhere (root : Shape) (predicate : Expr)
  | selectMulti (query : Query) (shapes : List Shape)
  | single (query : Query)
  | singleWhere (root : Shape) (predicate : Expr)
  | scalar (root : Shape) (item : Expr) (predicate : Option Expr) (type : FieldType)
  | scalarOf (query : Query) (type : FieldType)
  | count (query : Query)
  | countWhere (root : Shape) (predicate : Expr)
  | countAll (root : Shape)
  | countStatement (statement : Statement)
  | rowCount (query : Query)
  | rowCountOf (statement : Statement)
  /-- A stream that is read to its end. -/
  | stream (query : Query)
  /-- The root of the query is the model whose relations are loaded. -/
  | loadSelect (model : Model) (query : Query) (names : List String)
      (rooted : query.root = model.shape)
  | loadSelectInto (model : Model) (query : Query) (names : List String)
  | loadSelectWhere (model : Model) (predicate : Expr) (names : List String)
  | loadReferences (shape : Shape) (query : Query) (relations : List (Relation × Nat))
      (parents : List Parent)

/-- What an operation returns. -/
inductive Answer
  | records (records : List Record)
  | tuples (tuples : List (List Record))
  | record (record : Option Record)
  | value (value : Value)
  | count (count : Int64)
  /-- The items of a stream, of which the last one may be an error. -/
  | items (items : List StreamItem)
  | parents (parents : List Parent)

/-- How an operation fails, if it does. A stream fails with its last item. -/
def Answer.failure? : Except Error Answer → Option Error
  | .error error => some error
  | .ok (.items handedOut) => handedOut.getLast?.bind Error.of?
  | .ok _ => none

namespace Database

/-- The parents with relations loaded, if that succeeds. -/
def loadAll
    (database : Database)
    (shape : Shape)
    (query : Query)
    (relations : List (Relation × Nat))
    (parents : List Parent) :
    Action (List Parent) :=
  fun session =>
    let ((outcome, loaded), after) :=
      database.loadReferences shape query relations parents session
    (outcome.map fun _ => loaded, after)

/-- What an operation does. -/
def perform (database : Database) : Request → Action Answer
  | .select query => .records <$> database.select query
  | .selectInto query target => .records <$> database.selectInto query target
  | .selectWhere root predicate => .records <$> database.selectWhere root predicate
  | .selectMulti query shapes => .tuples <$> database.selectMulti query shapes
  | .single query => .record <$> database.single query
  | .singleWhere root predicate => .record <$> database.singleWhere root predicate
  | .scalar root item predicate type =>
      .value <$> database.scalar root item predicate type
  | .scalarOf query type => .value <$> database.scalarOf query type
  | .count query => .count <$> database.count query
  | .countWhere root predicate => .count <$> database.countWhere root predicate
  | .countAll root => .count <$> database.countAll root
  | .countStatement statement => .count <$> database.countStatement statement
  | .rowCount query => .count <$> database.rowCount query
  | .rowCountOf statement => .count <$> database.rowCountOf statement
  | .stream query => fun session =>
      (database.stream query none session).map (.ok ∘ .items) id
  | .loadSelect model query names _ => .parents <$> database.loadSelect model query names
  | .loadSelectInto model query names =>
      .parents <$> database.loadSelectInto model query names
  | .loadSelectWhere model predicate names =>
      .parents <$> database.loadSelectWhere model predicate names
  | .loadReferences shape query relations parents =>
      .parents <$> database.loadAll shape query relations parents

/-- How an operation fails, if it does, and the session that it leaves. -/
def ends (database : Database) (request : Request) (session : Session) :
    Option Error × Session :=
  (database.perform request session).map Answer.failure? id

/-- A stream that is read to its end fails like the selection, in the same session. -/
theorem ends_stream (database : Database) (query : Query) (session : Session) :
    database.ends (.stream query) session =
      (database.select query session).map Error.of? id := by
  obtain ⟨served, _, _, agrees⟩ := database.agrees_select query session
  have ended {items : List StreamItem} {after : Session}
      (streamed : database.stream query none session = (items, after)) :
      database.ends (.stream query) session = (items.getLast?.bind Error.of?, after) :=
    congrArg (Prod.map (fun items => Answer.failure? (.ok (.items items))) id) streamed
  generalize database.select query session = selected at agrees
  cases agrees with
  | complete _ records read yields finished =>
      rw [ended (StreamSource.items_of_yields yields finished)]
      simp [List.getLast?_map, Option.bind_map, Function.comp_def]
  | failed _ records read yields =>
      rw [ended (StreamSource.items_of_yields yields rfl)]
      simp
  | refused front row records read refusal yields =>
      rw [ended (StreamSource.items_of_yields yields rfl)]
      simp

end Database
end TypedSql
