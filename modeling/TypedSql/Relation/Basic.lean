import TypedSql.Error
import TypedSql.Record.Basic
import TypedSql.Sql.Fragment

/-!
# Relations

A relation leads from a parent to its children: the children whose key field has
the value of the parent's key field. A model is a shape with its relations, and a
parent is a record of a model with a slot for each relation.
-/

namespace TypedSql

/-- How many children a parent may have. -/
inductive Cardinality
  | many
  | one
  deriving DecidableEq

/-- A named relation of a parent to its children. -/
structure Relation where
  name : String
  cardinality : Cardinality
  child : Shape
  /-- The field of the parent whose value is looked up. -/
  parentKey : String
  /-- The field of the child that must have that value. -/
  childKey : String
  deriving DecidableEq

/-- A shape with its relations in declared order. -/
structure Model where
  shape : Shape
  relations : List Relation
  deriving DecidableEq

/-- The children that a parent was given by a relation. -/
inductive Related
  | many (children : List Record)
  | one (child : Option Record)
  deriving DecidableEq

/-- What a parent is given when `children` are the children with its key. -/
def Cardinality.relate : Cardinality → List Record → Related
  | .many, children => .many children
  | .one, children => .one children.head?

/-- A record with what its relations gave it. -/
structure Parent where
  record : Record
  /-- One slot for each relation of the model, empty until the relation is loaded. -/
  slots : List (Option Related)
  deriving DecidableEq

namespace Parent

/-- A record with empty slots. -/
def ofRecord (model : Model) (record : Record) : Parent :=
  ⟨record, model.relations.map fun _ => none⟩

/-- The parent with a slot filled. -/
def fill (parent : Parent) (slot : Nat) (related : Related) : Parent :=
  { parent with slots := parent.slots.set slot (some related) }

@[simp] theorem record_fill (parent : Parent) (slot : Nat) (related : Related) :
    (parent.fill slot related).record = parent.record := rfl

end Parent

/-- A field with its position in a shape, or why there is none of that name. -/
def Shape.locate (shape : Shape) (name : String) : Except CompileError (Nat × Field) :=
  match shape.find? name with
  | none => .error (.unknownField name shape.table)
  | some position =>
      match shape.fields[position]? with
      | none => .error (.unknownField name shape.table)
      | some field => .ok (position, field)

namespace Model

/-- The relation with a name, up to case, and its slot. -/
def relationNamed (model : Model) (name : String) : Except CompileError (Relation × Nat) :=
  match model.relations.zipIdx.find? fun entry => Ascii.same entry.1.name name with
  | some entry => .ok entry
  | none => .error (.unknownRelation name model.shape.table)

/-- Why a relation's keys are no fields of parent and child, if they are not. -/
def checkKeys (model : Model) (relation : Relation) : Except CompileError Unit := do
  let _ ← model.shape.locate relation.parentKey
  let _ ← relation.child.locate relation.childKey

/-- The relations named by `include`, or all of them if it is empty, with their slots. -/
def select (model : Model) (names : List String) :
    Except CompileError (List (Relation × Nat)) :=
  if names.isEmpty then .ok model.relations.zipIdx
  else names.mapM model.relationNamed

/-- The selected relations, once the keys of all of them are known to be fields. -/
def resolve (model : Model) (names : List String) :
    Except CompileError (List (Relation × Nat)) := do
  let selected ← model.select names
  selected.forM fun entry => model.checkKeys entry.1
  return selected

end Model

/-- The statement that reads the children whose key is among some keys. -/
def Relation.childStatement
    (relation : Relation)
    (keys : Fragment)
    (dialect : Dialect) :
    Except CompileError Statement := do
  let shape := relation.child
  let (_, key) ← shape.locate relation.childKey
  let columns := shape.fields.map fun field => Fragment.qualified shape.table field.column
  let fragment : Fragment :=
    .keyword .selectKw :: Fragment.commas columns ++
      .keyword .fromKw :: .identifier shape.table :: .keyword .whereKw ::
        Fragment.qualified shape.table key.column ++
          .keyword .inKw :: Fragment.parens keys
  return fragment.build dialect

end TypedSql
