import TypedSql.Sql.Token
import TypedSql.Value.Error

/-!
# Errors

The causes for which a query cannot be compiled, an operation fails, or a row
cannot be turned into an entity, each with its wording.
-/

namespace TypedSql

/-- The connectives that combine conditions. -/
inductive Connective
  | and
  | or
  deriving DecidableEq

/-- The keyword of a connective. -/
def Connective.keyword : Connective → Keyword
  | .and => .andKw
  | .or => .orKw

/-- The token of a connective. -/
def Connective.token (connective : Connective) : Token :=
  .keyword connective.keyword

/-- Why an expression or a query cannot be compiled. -/
inductive CompileError
  /-- A column is pinned to a table that the query does not read. -/
  | foreignTable (table : String)
  /-- No table of the query has the column. -/
  | unknownColumn (name : String)
  /-- The table that a column is pinned to does not have it. -/
  | unknownColumnOf (name table : String)
  | unsupportedFunction (name : String)
  | argumentCount (function : String) (count : Nat)
  | emptyGroup (connective : Connective)
  /-- A name is given to a part of an expression that is no projection item. -/
  | misplacedName (name : String)
  | emptyProjection
  | repeatedTable (table : String)
  /-- A table is asked for that has not been joined. -/
  | unjoinedTable (table : String)
  /-- No field of the target can be read from the query. -/
  | nothingResolves (table : String)
  /-- No entity is given to read several of. -/
  | noEntities
  /-- The restriction leaves no column to read. -/
  | noColumns
  /-- There are fewer groups of columns than entities to read. -/
  | missingGroup (groups position : Nat)
  | unknownField (name table : String)
  | unknownRelation (name table : String)
  deriving DecidableEq

/-- The wording of a compilation error. -/
def CompileError.message : CompileError → String
  | .foreignTable table => "table `" ++ table ++ "` is not part of this query"
  | .unknownColumn name => "unknown column `" ++ name ++ "`"
  | .unknownColumnOf name table => "unknown column `" ++ name ++ "` on `" ++ table ++ "`"
  | .unsupportedFunction name => "unsupported function `" ++ name ++ "`"
  | .argumentCount function count =>
      "function `" ++ function ++ "` called with " ++ toString count ++ " arguments"
  | .emptyGroup connective => "empty " ++ connective.keyword.text ++ " group"
  | .misplacedName name => "alias `" ++ name ++ "` is only allowed in a projection"
  | .emptyProjection => "empty projection"
  | .repeatedTable table => "table `" ++ table ++ "` is already part of this query"
  | .unjoinedTable table => "table `" ++ table ++ "` is not part of this query; join it first"
  | .nothingResolves table => "no field of `" ++ table ++ "` resolves against this query"
  | .noEntities => "multi-select needs at least one entity"
  | .noColumns => "field restriction leaves no columns to select"
  | .missingGroup groups position =>
      "multi-select layout has " ++ toString groups ++ " groups, tuple needs position " ++
        toString position
  | .unknownField name table => "unknown field `" ++ name ++ "` on `" ++ table ++ "`"
  | .unknownRelation name table => "`" ++ table ++ "` has no relation named `" ++ name ++ "`"

/-- Why the execution of a statement fails. -/
inductive ExecutionError
  /-- The connection reports an error of its own. -/
  | reported (reason : String)
  /-- A row is too short for the entities that are read from it. -/
  | shortRow (found expected : Nat)
  /-- The sum of the counts is outside the 64-bit integers. -/
  | countOverflow
  deriving DecidableEq

/-- The wording of an execution error. -/
def ExecutionError.message : ExecutionError → String
  | .reported reason => reason
  | .shortRow found expected =>
      "row has " ++ toString found ++ " columns, multi-select expects " ++ toString expected
  | .countOverflow => "row count overflowed i64"

/-- A cell that cannot be converted into its field. -/
structure ConversionError where
  column : String
  field : String
  cause : ValueError
  deriving DecidableEq

/-- Why an operation fails. -/
inductive Error
  | compilation (cause : CompileError)
  | execution (cause : ExecutionError)
  /-- The cancellation token fired. -/
  | cancelled
  | conversion (cause : ConversionError)
  deriving DecidableEq

namespace Error

/-- The wording of an error. -/
def message : Error → String
  | .compilation cause => "Compilation error: " ++ cause.message
  | .execution cause => "Execution error: " ++ cause.message
  | .cancelled => "Query cancelled"
  | .conversion cause =>
      "Conversion error: column `" ++ cause.column ++ "` into field `" ++ cause.field ++
        "`: " ++ cause.cause.message

/-- Whether the operation was aborted rather than failed. -/
def isCancelled : Error → Bool
  | .cancelled => true
  | _ => false

/-- Whether the error is one of compilation. -/
def isCompilation : Error → Bool
  | .compilation _ => true
  | _ => false

end Error
end TypedSql
