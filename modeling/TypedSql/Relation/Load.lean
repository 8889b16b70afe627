import TypedSql.Database
import TypedSql.Relation.Attach

/-!
# Loading relations

After the parents have been read, each relation costs one more statement, which
looks the children up by the keys of the parent query. Relations are loaded in
order onto the parents; the first failure ends the loading, with the parents as
they are by then.
-/

namespace TypedSql

/-- The keys of a query's rows, by the column of a field or else by its name. -/
def Query.keysOf (query : Query) (field : Field) : Except CompileError Fragment :=
  match query.keySubquery field.column with
  | .ok keys => .ok keys
  | .error _ => query.keySubquery field.name

namespace Database

/-- A row after the rows that are there already. -/
def rowStep (rows : List Row) (row : Row) : Except Error (List Row) :=
  .ok (rows ++ [row])

/-- The names of the columns of rows. -/
def columnsOf (rows : List Row) : List String :=
  (rows.head?.map Row.columns).getD []

/-- Stops an operation if its token has fired. -/
def checkToken (stage : Stage) : Action Unit :=
  fun session =>
    if session.fired then
      let (error, after) := session.stop stage
      (.error error, after)
    else
      (.ok (), session)

/-- Tells the observer something. -/
def tell (event : Event) : Action Unit :=
  fun session => (.ok (), session.emit event)

/-- The rows of the children of parents; nothing is read if no parent has a key. -/
def readChildren
    (database : Database)
    (shape : Shape)
    (query : Query)
    (relation : Relation)
    (parents : List Parent) :
    Action (Option (List Row)) := do
  checkToken .loading
  let (position, field) ← Action.ofCompile (shape.locate relation.parentKey)
  if parents.all fun parent => (parent.record.get position).isNull then
    return none
  let keys ← Action.ofCompile (query.keysOf field)
  tell (.loading relation.name parents.length)
  let statement ← Action.ofCompile (relation.childStatement keys database.dialect)
  let rows ← database.drain statement none rowStep []
  return some rows

/-- What comes of loading a relation, and the parents as they are afterwards. -/
def loadRelation
    (database : Database)
    (shape : Shape)
    (query : Query)
    (relation : Relation)
    (slot : Nat)
    (parents : List Parent)
    (session : Session) :
    (Except Error Unit × List Parent) × Session :=
  match database.readChildren shape query relation parents session with
  | (.error error, after) => ((.error error, parents), after)
  | (.ok none, after) => ((.ok (), parents), after)
  | (.ok (some rows), after) =>
      (relation.attach slot shape database.dialect (columnsOf rows) rows parents, after)

/-- What comes of loading relations one after the other, and the parents afterwards. -/
def loadRelations
    (database : Database)
    (shape : Shape)
    (query : Query) :
    List (Relation × Nat) → List Parent → Session → (Except Error Unit × List Parent) × Session
  | [], parents, session => ((.ok (), parents), session)
  | (relation, slot) :: rest, parents, session =>
      match database.loadRelation shape query relation slot parents session with
      | ((.ok (), loaded), after) => loadRelations database shape query rest loaded after
      | ((.error error, left), after) => ((.error error, left), after)

/-- What comes of loading relations; nothing is done if there are no parents. -/
def loadReferences
    (database : Database)
    (shape : Shape)
    (query : Query)
    (relations : List (Relation × Nat))
    (parents : List Parent)
    (session : Session) :
    (Except Error Unit × List Parent) × Session :=
  if parents.isEmpty then ((.ok (), parents), session)
  else database.loadRelations shape query relations parents session

/-- Records as parents with relations loaded. -/
def loadOnto
    (database : Database)
    (model : Model)
    (query : Query)
    (relations : List (Relation × Nat))
    (records : List Record) :
    Action (List Parent) :=
  fun session =>
    match database.loadReferences model.shape query relations
        (records.map (Parent.ofRecord model)) session with
    | ((.ok (), parents), after) => (.ok parents, after)
    | ((.error error, _), after) => (.error error, after)

/-- The rows of a query with the named relations loaded, or all if none is named. -/
def loadSelect
    (database : Database)
    (model : Model)
    (query : Query)
    (names : List String) :
    Action (List Parent) := do
  let relations ← Action.ofCompile (model.resolve names)
  let records ← database.select query
  database.loadOnto model query relations records

/-- The rows of a query as records of another model, with its relations loaded. -/
def loadSelectInto
    (database : Database)
    (model : Model)
    (query : Query)
    (names : List String) :
    Action (List Parent) := do
  let relations ← Action.ofCompile (model.resolve names)
  let records ← database.selectInto query model.shape
  database.loadOnto model query relations records

/-- The rows of a table that fulfil a condition, with relations loaded. -/
def loadSelectWhere
    (database : Database)
    (model : Model)
    (predicate : Expr)
    (names : List String) :
    Action (List Parent) := do
  let query ← Action.ofCompile ((database.source model.shape).filterAnd predicate)
  database.loadSelect model query names

end Database
end TypedSql
