import TypedSql.Query.Basic
import TypedSql.Text.Quoted
import TypedSql.Value.Printer

/-!
# Descriptions of queries
-/

namespace TypedSql
namespace Query

/-- An optional text as a description shows it. -/
def describeOption : Option String → String
  | none => "None"
  | some content => "Some(" ++ content ++ ")"

/-- A short description of a query: its table, dialect, page and restriction. -/
def describe (query : Query) : String :=
  let number (count : UInt64) : String := toString count.toNat
  let names (list : List String) : String := Value.bracketed (list.map Quoted.encode)
  "SqlExpression \x7b table: " ++ Quoted.encode query.root.table ++
    ", dialect: " ++ query.dialect.name ++
    ", limit: " ++ describeOption (query.limit.map number) ++
    ", offset: " ++ describeOption (query.offset.map number) ++
    ", only: " ++ describeOption (query.only.map names) ++ ", .. \x7d"

end Query
end TypedSql
