import TypedSql.Record.Mapper
import TypedSql.Relation.Basic

/-!
# Attaching children

Children are read from rows, grouped by the value of their key field in the order
of the rows, and given to each parent whose key field has that value: the groups hold
just the records of each key, in order. The rows are read and the key of the parents is
located before the first parent is given anything.
-/

namespace TypedSql

/-- Children grouped by the value of their key. -/
abbrev ChildGroups := List (Value × List Record)

namespace ChildGroups

/-- The groups with a child added at the end of its group. -/
def insert (key : Value) (child : Record) : ChildGroups → ChildGroups
  | [] => [(key, [child])]
  | (other, children) :: rest =>
      if other = key then (other, children ++ [child]) :: rest
      else (other, children) :: insert key child rest

/-- The children of a key. -/
def children (groups : ChildGroups) (key : Value) : List Record :=
  (groups.lookup key).getD []

@[simp] theorem children_nil (key : Value) : children [] key = [] := rfl

@[simp] theorem children_cons
    (first key : Value)
    (members : List Record)
    (rest : ChildGroups) :
    children ((first, members) :: rest) key =
      if key = first then members else children rest key := by
  by_cases same : key = first
  · simp [children, same]
  · simp [children, List.lookup_cons, beq_false_of_ne same, same]

/-- An added child comes last among the children of its key; other keys keep theirs. -/
theorem children_insert
    (key other : Value)
    (child : Record)
    (groups : ChildGroups) :
    (insert key child groups).children other =
      groups.children other ++ if other = key then [child] else [] := by
  induction groups with
  | nil => simp [insert]
  | cons group rest inductionHypothesis =>
      obtain ⟨first, members⟩ := group
      by_cases held : first = key <;> by_cases sought : other = first <;>
        simp_all [insert]

/-- Children grouped by the value of the field at a position. -/
def ofRecords (position : Nat) (records : List Record) : ChildGroups :=
  records.foldl (fun groups child => insert (child.get position) child groups) []

/-- The children of a key are the records with that key, in their order. -/
theorem children_ofRecords
    (position : Nat)
    (records : List Record)
    (key : Value) :
    (ofRecords position records).children key =
      records.filter fun child => child.get position = key := by
  suffices general : ∀ groups : ChildGroups,
      (records.foldl (fun groups child => insert (child.get position) child groups)
        groups).children key =
        groups.children key ++ records.filter fun child => child.get position = key by
    simpa [ofRecords] using general []
  induction records with
  | nil => simp
  | cons child rest inductionHypothesis =>
      intro groups
      by_cases sought : child.get position = key
      · simp [inductionHypothesis, children_insert, sought]
      · simp [inductionHypothesis, children_insert, sought, Ne.symm sought]

end ChildGroups

namespace Relation

/-- The children that rows stand for, grouped by key. -/
def groupRows
    (relation : Relation)
    (dialect : Dialect)
    (columns : List String)
    (rows : List Row) :
    Except Error ChildGroups := do
  let (position, _) ← (relation.child.locate relation.childKey).mapError .compilation
  let mapper := Mapper.ofColumns relation.child columns none
  let records ← rows.mapM (mapper.read dialect)
  return ChildGroups.ofRecords position records

/--
What comes of giving each parent the children of its key in a slot, and the parents as they
are afterwards.
-/
def attach
    (relation : Relation)
    (slot : Nat)
    (shape : Shape)
    (dialect : Dialect)
    (columns : List String)
    (rows : List Row)
    (parents : List Parent) :
    Except Error Unit × List Parent :=
  match relation.groupRows dialect columns rows with
  | .error error => (.error error, parents)
  | .ok groups =>
      match shape.locate relation.parentKey with
      | .error cause => (.error (.compilation cause), parents)
      | .ok (position, _) =>
          (.ok (), parents.map fun parent =>
            parent.fill slot
              (relation.cardinality.relate (groups.children (parent.record.get position))))

end Relation
end TypedSql
