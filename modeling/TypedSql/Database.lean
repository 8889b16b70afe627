import TypedSql.Query.Emit
import TypedSql.Query.History
import TypedSql.Session.Drain
import TypedSql.Session.Stream

/-!
# Databases

A database is a dialect and the choice whether statements are logged. Its
operations compile their statements first and only then open them: rows as
records, tuples of records, a single record, a single value, and counts.
-/

namespace TypedSql

/-- How statements are rendered and observed. -/
structure Database where
  dialect : Dialect
  /-- Whether an event is emitted for each statement. -/
  logged : Bool

namespace Action

/-- An operation that only compiles. -/
def ofCompile (compiled : Except CompileError α) : Action α :=
  fun session => (compiled.mapError Error.compilation, session)

end Action

namespace Database

/-- The query for all rows of a table. -/
def source (database : Database) (shape : Shape) : Query :=
  .ofRoot database.dialect shape

/-- Opens a statement, feeds its rows to a step, and closes the cursor. -/
def drain
    (database : Database)
    (statement : Statement)
    (budget : Option Nat)
    (step : σ → Row → Except Error σ)
    (initial : σ) :
    Action σ :=
  fun session => session.drain database.logged statement budget step initial

/-- Rows as records, after those that are there already. -/
def recordStep
    (database : Database)
    (shape : Shape)
    (only : Restriction)
    (records : List Record)
    (row : Row) :
    Except Error (List Record) := do
  let record ← (Mapper.ofColumns shape row.columns only).read database.dialect row
  return records ++ [record]

/-- The rows of a statement as records. -/
def collect
    (database : Database)
    (statement : Statement)
    (shape : Shape)
    (only : Restriction)
    (budget : Option Nat) :
    Action (List Record) :=
  database.drain statement budget (database.recordStep shape only) []

/-! ## Rows -/

/-- The rows of a query as records of its root. -/
def select (database : Database) (query : Query) : Action (List Record) :=
  database.collect query.toSelect query.root query.only none

/-- The rows of a query as records of another shape. -/
def selectInto
    (database : Database)
    (query : Query)
    (target : Shape) :
    Action (List Record) := do
  let statement ← Action.ofCompile (query.toSelectInto target)
  database.collect statement target query.only none

/-- The rows of a table that fulfil a condition. -/
def selectWhere
    (database : Database)
    (root : Shape)
    (predicate : Expr) :
    Action (List Record) := do
  let query ← Action.ofCompile ((database.source root).filterAnd predicate)
  database.select query

/-- A row as a tuple of records, after the tuples that are there already. -/
def tupleStep
    (database : Database)
    (layout : Layout)
    (arity : Nat)
    (tuples : List (List Record))
    (row : Row) :
    Except Error (List (List Record)) :=
  if row.width < layout.width then
    .error (.execution (.shortRow row.width layout.width))
  else do
    let tuple ← (readTuple database.dialect (Mapper.ofLayout layout) arity row).1
    return tuples ++ [tuple]

/-- The rows of a query as tuples of records. -/
def selectMulti
    (database : Database)
    (query : Query)
    (shapes : List Shape) :
    Action (List (List Record)) := do
  let (statement, layout) ← Action.ofCompile (query.toMultiSelect shapes)
  database.drain statement none (database.tupleStep layout shapes.length) []

/-- The rows of a query as records, one after the other. -/
def stream
    (database : Database)
    (query : Query)
    (budget : Option Nat)
    (session : Session) :
    List StreamItem × Session :=
  StreamSource.run
    ⟨database.dialect, database.logged, query.root, query.only, query.toSelect⟩
    budget session

/-! ## Single rows and values -/

/-- The first row of a query, if there is one; only one row is asked for. -/
def single (database : Database) (query : Query) : Action (Option Record) := do
  let records ←
    database.collect (query.withLimit 1).toSelect query.root query.only (some 1)
  return records.head?

/-- The first row of a table that fulfils a condition. -/
def singleWhere
    (database : Database)
    (root : Shape)
    (predicate : Expr) :
    Action (Option Record) := do
  let query ← Action.ofCompile ((database.source root).filterAnd predicate)
  database.single query

/-- The first cell of a row as a value that may be null. -/
def scalarStep
    (database : Database)
    (type : FieldType)
    (_ : Value)
    (row : Row) :
    Except Error Value := do
  let cell ← (readScalar database.dialect type.allowNull row).1
  return cell.getD .null

/-- The first cell of the first row of a query; the null value if there is none. -/
def scalarOf (database : Database) (query : Query) (type : FieldType) : Action Value :=
  database.drain query.toSelect (some 1) (database.scalarStep type) .null

/-- An expression over the first row of a table that fulfils a condition. -/
def scalar
    (database : Database)
    (root : Shape)
    (item : Expr)
    (predicate : Option Expr)
    (type : FieldType) :
    Action Value := do
  let selected ← Action.ofCompile ((database.source root).select [item])
  let query ←
    match predicate with
    | none => pure selected
    | some condition => Action.ofCompile (selected.filterAnd condition)
  database.scalarOf query type

/-! ## Counts -/

/-- The number that a cell of a count stands for; the null value counts nothing. -/
def countOf : Option Value → Int
  | some (.integer number) => number.toInt
  | _ => 0

/-- The type of counts. -/
def countType : FieldType := ⟨.integer .signed64, true⟩

/-- A sum with the first cell of a row added, if it stays within 64 bits. -/
def countStep (database : Database) (total : Int64) (row : Row) : Except Error Int64 := do
  let cell ← (readScalar database.dialect countType row).1
  match Value.int64? (total.toInt + countOf cell) with
  | some sum => return sum
  | none => throw (.execution .countOverflow)

/-- The sum of the first cells of a statement's rows. -/
def countStatement (database : Database) (statement : Statement) : Action Int64 :=
  database.drain statement none database.countStep 0

/-- The number of rows that a query matches, its page and order aside. -/
def count (database : Database) (query : Query) : Action Int64 :=
  database.countStatement query.toCount

/-- The number of rows of a table that fulfil a condition. -/
def countWhere
    (database : Database)
    (root : Shape)
    (predicate : Expr) :
    Action Int64 := do
  let query ← Action.ofCompile ((database.source root).filterAnd predicate)
  database.count query

/-- The number of rows of a table. -/
def countAll (database : Database) (root : Shape) : Action Int64 :=
  database.count (database.source root)

/-- The number of rows that a query returns, its page included. -/
def rowCount (database : Database) (query : Query) : Action Int64 :=
  database.countStatement query.toRowCount

/-- The number of rows that a statement returns. -/
def rowCountOf (database : Database) (statement : Statement) : Action Int64 :=
  database.countStatement (statement.countRows database.dialect)

end Database
end TypedSql
