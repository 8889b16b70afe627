import TypedSql.Dialect.Basic

/-!
# Stock dialects

The dialects of three databases. They differ in the quote character, in the
placeholder, and in how an offset is written without a limit.
-/

namespace TypedSql

/-- The databases whose dialects are built in. -/
inductive Vendor
  | postgresql
  | sqlite
  | mysql
  deriving DecidableEq, Inhabited

namespace Vendor

/-- The name of a vendor in settings. -/
def label : Vendor → String
  | .postgresql => "postgresql"
  | .sqlite => "sqlite"
  | .mysql => "mysql"

/-- The name of a vendor in descriptions. -/
def title : Vendor → String
  | .postgresql => "PostgreSQL"
  | .sqlite => "SQLite"
  | .mysql => "MySQL"

/-- The character around identifiers. -/
def quoteCharacter : Vendor → Char
  | .postgresql => '"'
  | .sqlite => '"'
  | .mysql => '\x60'

/-- The placeholder of a parameter: numbered for one vendor, plain for the others. -/
def placeholder : Vendor → Nat → String
  | .postgresql, index => "$" ++ toString index
  | .sqlite, _ => "?"
  | .mysql, _ => "?"

/-- The greatest limit that can be written. -/
def greatestLimit : Nat := 0xFFFFFFFFFFFFFFFF

/-- The paging clause of a vendor for a limit and an offset. -/
def paging : Vendor → Option UInt64 → Option UInt64 → Option String
  | _, none, none => none
  | .mysql, some limit, some offset =>
      some ("LIMIT " ++ toString offset.toNat ++ ", " ++ toString limit.toNat)
  | .mysql, none, some offset =>
      some ("LIMIT " ++ toString offset.toNat ++ ", " ++ toString greatestLimit)
  | .sqlite, none, some offset => some ("LIMIT -1 OFFSET " ++ toString offset.toNat)
  | .postgresql, none, some offset => some ("OFFSET " ++ toString offset.toNat)
  | _, some limit, none => some ("LIMIT " ++ toString limit.toNat)
  | _, some limit, some offset =>
      some ("LIMIT " ++ toString limit.toNat ++ " OFFSET " ++ toString offset.toNat)

/-- The dialect of a vendor. -/
def dialect (vendor : Vendor) : Dialect where
  name := vendor.title
  quote := Dialect.quoteDoubling vendor.quoteCharacter
  placeholder := vendor.placeholder
  paging := vendor.paging

end Vendor
end TypedSql
