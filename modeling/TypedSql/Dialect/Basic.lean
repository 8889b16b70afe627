import TypedSql.Value.Conversion

/-!
# Dialects

The rules in which databases differ: how identifiers are quoted, how
placeholders are written, how a page of rows is asked for, and how a cell is
brought into the storage class of a field.
-/

namespace TypedSql

/-- The rules of one database. -/
structure Dialect where
  /-- The name that stands for the dialect in descriptions. -/
  name : String
  /-- The quoted form of an identifier. -/
  quote : String → String
  /-- The placeholder of a parameter, counted from one. -/
  placeholder : Nat → String
  /-- The clause for a limit and an offset, if one is needed. -/
  paging : Option UInt64 → Option UInt64 → Option String
  /-- A cell brought into a storage class. -/
  convert : Value → SqlType → Except ValueError Value := Value.coerce

/-- A text between quote characters, each quote character in it doubled. -/
def Dialect.quoteDoubling (quote : Char) (name : String) : String :=
  String.ofList
    (quote :: (name.toList.flatMap
      fun character => if character = quote then [quote, quote] else [character]) ++ [quote])

@[simp] theorem Dialect.toList_quoteDoubling (quote : Char) (name : String) :
    (Dialect.quoteDoubling quote name).toList =
      quote :: (name.toList.flatMap
        fun character => if character = quote then [quote, quote] else [character]) ++
          [quote] := by
  simp [quoteDoubling]

end TypedSql
