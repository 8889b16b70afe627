import TypedSql.Numeric.Binary

/-!
# Documents of settings

The items of a TOML document and the rules by which tables grow. A table may be
implied by the path to another, made by dotted keys, opened by a header, or
written inline; where it came from decides what may still be added to it.
-/

namespace TypedSql
namespace Toml

/-- Where a table came from. -/
inductive Origin
  /-- It lies on the path of a header. -/
  | implied
  /-- It lies on the path of a dotted key. -/
  | dotted
  /-- It was opened by a header, or is the root. -/
  | header
  /-- It was written as a value. -/
  | inline
  deriving DecidableEq

/-- An item of a document. -/
inductive Item
  | text (content : String)
  | boolean (flag : Bool)
  | integer (number : Int)
  | real (number : Binary64)
  /-- A date, a time of day, or both, as it is written. -/
  | moment (content : String)
  | array (items : List Item)
  | table (origin : Origin) (entries : List (String × Item))
  /-- Tables opened one after the other under one name, the last one first. -/
  | tables (elements : List (List (String × Item)))

/-- The entries of a table, by name. -/
abbrev Entries := List (String × Item)

/-- A change of the entries of a table of some origin, if it is possible. -/
abbrev Change := Origin → Entries → Option Entries

namespace Entries

/-- The item under a name. -/
def find? (entries : Entries) (name : String) : Option Item :=
  entries.lookup name

/-- The entries with an item put under a name. -/
def put (entries : Entries) (name : String) (item : Item) : Entries :=
  if (entries.find? name).isSome then
    entries.map fun entry => if entry.1 = name then (name, item) else entry
  else
    entries ++ [(name, item)]

end Entries

/-- Whether a path of dotted keys may pass through a table of an origin. -/
def Origin.allowsDotted : Origin → Bool
  | .implied => true
  | .dotted => true
  | _ => false

/-- An item changed as a table, if it is one that may be passed through. -/
def Item.changeTable (dotted : Bool) (change : Change) : Item → Option Item
  | .table .inline _ => none
  | .table origin entries =>
      if dotted && !origin.allowsDotted then none
      else (change origin entries).map (.table origin)
  | .tables (last :: earlier) =>
      if dotted then none
      else (change .header last).map fun entries => .tables (entries :: earlier)
  | _ => none

/--
The change of the table at the end of a path. Tables that are missing on the path
are added; arrays of tables are passed through at their last table.
-/
def changeAt (dotted : Bool) (change : Change) : List String → Change
  | [], origin, entries => change origin entries
  | name :: path, _, entries =>
      match entries.find? name with
      | some item => do
          let changed ← item.changeTable dotted (changeAt dotted change path)
          return entries.put name changed
      | none => do
          let origin : Origin := if dotted then .dotted else .implied
          let added ← changeAt dotted change path origin []
          return entries.put name (.table origin added)

/--
Adds an item under the last name of a dotted key. A key with several names may
only add to tables made by dotted keys, a key with one name to all others.
-/
def addItem (path : List String) (name : String) (item : Item) : Change :=
  changeAt true (fun origin entries =>
    if (origin == .dotted) == path.isEmpty || (entries.find? name).isSome then none
    else some (entries.put name item)) path

/-- Opens the table at the end of a path, unless it is open already. -/
def openTable (path : List String) (name : String) : Change :=
  changeAt false (fun _ entries =>
    match entries.find? name with
    | none => some (entries.put name (.table .header []))
    | some (.table .implied inner) => some (entries.put name (.table .header inner))
    | some _ => none) path

/-- Opens one more table of the array of tables at the end of a path. -/
def openElement (path : List String) (name : String) : Change :=
  changeAt false (fun _ entries =>
    match entries.find? name with
    | none => some (entries.put name (.tables [[]]))
    | some (.tables elements) => some (entries.put name (.tables ([] :: elements)))
    | some _ => none) path

end Toml
end TypedSql
