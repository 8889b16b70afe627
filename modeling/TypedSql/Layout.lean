import TypedSql.Error
import TypedSql.Shape.Basic
import TypedSql.Sql.Fragment

/-!
# Layouts of several entities

A projection of several entities lists the columns of one after those of
another. The layout says which columns belong to which entity. It depends on the
shapes and the restriction alone, so that rows are cut at fixed positions. Each
column is named by a tag with the entity's position, a number that ends at the
first underscore, so that no two names are equal.
-/

namespace TypedSql

/-- What precedes a column's name in the names of a group's columns. -/
def aliasTag (position : Nat) : String :=
  "t" ++ toString position ++ "_"

/-- The columns of one entity among those of several. -/
structure ColumnGroup where
  /-- The position of the entity. -/
  position : Nat
  shape : Shape
  /-- The positions of the fields that are read, in the order of the columns. -/
  fields : List Nat
  /-- The position of the first column. -/
  offset : Nat
  deriving DecidableEq

namespace ColumnGroup

/-- The number of columns. -/
def width (group : ColumnGroup) : Nat :=
  group.fields.length

/-- The position after the last column. -/
def finish (group : ColumnGroup) : Nat :=
  group.offset + group.width

/-- A column of the group, under its name. -/
def item (group : ColumnGroup) (field : Field) : Fragment :=
  (Fragment.qualified group.shape.table field.column).named
    (aliasTag group.position ++ field.column)

/-- The columns of the group, under their names. -/
def items (group : ColumnGroup) : List Fragment :=
  group.fields.filterMap fun position => (group.shape.fields[position]?).map group.item

end ColumnGroup

/-- The positions of the fields that a restriction leaves in, from `position` on. -/
def allowedFrom (only : Restriction) : List Field → Nat → List Nat
  | [], _ => []
  | field :: rest, position =>
      if only.allows field then position :: allowedFrom only rest (position + 1)
      else allowedFrom only rest (position + 1)

/-- The positions of a shape's fields that a restriction leaves in. -/
def Shape.allowed (shape : Shape) (only : Restriction) : List Nat :=
  allowedFrom only shape.fields 0

/-- The columns of several entities, in the order of the entities. -/
structure Layout where
  groups : List ColumnGroup
  /-- The number of all columns. -/
  width : Nat
  deriving DecidableEq

namespace Layout

/-- The groups of shapes whose first has a position and an offset. -/
def groupsFrom (only : Restriction) : List Shape → Nat → Nat → List ColumnGroup
  | [], _, _ => []
  | shape :: rest, position, offset =>
      let fields := shape.allowed only
      ⟨position, shape, fields, offset⟩ ::
        groupsFrom only rest (position + 1) (offset + fields.length)

/-- The number of columns of shapes under a restriction. -/
def widthOf (only : Restriction) : List Shape → Nat
  | [] => 0
  | shape :: rest => (shape.allowed only).length + widthOf only rest

/-- The layout of shapes, or why they have none. -/
def ofShapes (shapes : List Shape) (only : Restriction) : Except CompileError Layout :=
  if shapes.isEmpty then .error .noEntities
  else if widthOf only shapes = 0 then .error .noColumns
  else .ok ⟨groupsFrom only shapes 0 0, widthOf only shapes⟩

/-- The projection of a layout. -/
def projection (layout : Layout) : Fragment :=
  .commas (layout.groups.flatMap ColumnGroup.items)

end Layout
end TypedSql
