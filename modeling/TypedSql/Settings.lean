import TypedSql.Database
import TypedSql.Dialect.Vendor
import TypedSql.Toml.Document

/-!
# Settings

The settings of a database are a vendor and the choice whether statements are
logged. They are read from a document, in which both may be left out and
everything else is ignored.
-/

namespace TypedSql

/-- The settings of a database. -/
structure Settings where
  vendor : Vendor
  logged : Bool
  deriving DecidableEq

namespace Settings

/-- The settings for a vendor when nothing else is said. -/
def ofVendor (vendor : Vendor) : Settings := ⟨vendor, true⟩

/-- The settings when nothing is said. -/
def standard : Settings := ofVendor default

instance : Inhabited Settings := ⟨standard⟩

/-- The vendor with a name. -/
def vendorNamed? (name : String) : Option Vendor :=
  if name ∈ ["postgresql", "postgres", "pg"] then some .postgresql
  else if name = "sqlite" then some .sqlite
  else if name = "mysql" then some .mysql
  else none

/-- Whether an item is an array or a table in which there is nothing. -/
def isVoid : Toml.Item → Bool
  | .array [] => true
  | .table _ [] => true
  | _ => false

/-- The vendor that an item names: by a text, or as the only, void, entry of a table. -/
def vendorOf? : Toml.Item → Option Vendor
  | .text name => vendorNamed? name
  | .table _ [(name, item)] => if isVoid item then vendorNamed? name else none
  | _ => none

/-- The truth value that an item is. -/
def flagOf? : Toml.Item → Option Bool
  | .boolean flag => some flag
  | _ => none

/-- The value of an entry: what is read from its item, or a default if there is none. -/
def entry
    (entries : Toml.Entries)
    (name : String)
    (read : Toml.Item → Option α)
    (absent : α) :
    Option α :=
  match entries.find? name with
  | none => some absent
  | some item => read item

/-- The settings in a document, if it is well-formed and both have values they may have. -/
def parse? (content : String) : Option Settings := do
  let entries ← Toml.document? content
  let vendor ← entry entries "dialect" vendorOf? default
  let logged ← entry entries "log_statements" flagOf? true
  return ⟨vendor, logged⟩

/-- The settings in a file, if there is one, and it holds a document in UTF-8. -/
def ofFile? (bytes : Option ByteArray) : Option Settings := do
  parse? (← String.fromUTF8? (← bytes))

/-- The settings as a JSON object. -/
def toJson (settings : Settings) : String :=
  "\x7b\"dialect\":\"" ++ settings.vendor.label ++ "\",\"log_statements\":" ++
    Value.booleanLabel settings.logged ++ "\x7d"

/-- The database with these settings. -/
def database (settings : Settings) : Database :=
  ⟨settings.vendor.dialect, settings.logged⟩

end Settings
end TypedSql
