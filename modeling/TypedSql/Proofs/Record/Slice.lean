import TypedSql.Proofs.Record.ByName
import TypedSql.Proofs.Record.Layout

/-!
# Entities of a wide row alone

A group of a wide row reads its entity by position. The same entity is read by name from a
row of the group's cells alone, under the plain names of the columns, if each of these names
finds its own field. The outcome is the same record, or an error with the same field and cause;
only the column is named otherwise. Since a group looks at no cell outside of its range and takes
none there, it does not matter which other groups were read from the wide row before.
-/

namespace TypedSql

/-- Outcomes that are alike but for the columns that errors name. -/
inductive AlikeButColumn {α : Type} : Except Error α → Except Error α → Prop
  | read (result : α) : AlikeButColumn (.ok result) (.ok result)
  | refused (column other field : String) (cause : ValueError) :
      AlikeButColumn (.error (.conversion ⟨column, field, cause⟩))
        (.error (.conversion ⟨other, field, cause⟩))

/-- The cells of a group alone, under the plain names of its columns. -/
def ColumnGroup.slice (group : ColumnGroup) (only : Restriction) (row : Row) : Row :=
  ⟨group.shape.columns only, (row.cells.drop group.offset).take group.width⟩

/-- What is left of a row after groups were read from it, one after the other. -/
def Row.afterReading (dialect : Dialect) (row : Row) (groups : List ColumnGroup) : Row :=
  groups.foldl (fun left group => ((Mapper.ofGroup group).materialize dialect left).2) row

/-! ## Mapping and what lies outside -/

namespace Mapper

variable {dialect : Dialect} {slots : List (Option Nat)} {record : Record} {row left right : Row}

/-- Cells outside of the columns that are looked at stay, however the mapping ends. -/
theorem cell?_applyFrom
    {column other : Nat}
    (outside : other < column ∨ column + slots.length ≤ other) :
    (applyFrom dialect column slots record row).2.2.cell? other = row.cell? other := by
  induction slots generalizing column record row with
  | nil => rfl
  | cons slot slots inductionHypothesis =>
      rw [List.length_cons] at outside
      have laterOutside : other < column + 1 ∨ column + 1 + slots.length ≤ other := by omega
      rcases applyFrom_cons dialect record row column slots slot with
        ⟨_, sameResult⟩ | ⟨feed, rfl, _, result⟩
      · rw [sameResult, inductionHypothesis laterOutside]
      · have different : feed.column ≠ other := by omega
        rw [result]
        cases feed.outcome dialect record.shape with
        | ok value =>
            exact (inductionHypothesis laterOutside).trans (row.cell?_clear_of_ne different)
        | error cause => exact row.cell?_clear_of_ne different

/-- Rows with the same cells in the columns that are looked at are mapped alike. -/
theorem alikeButColumn_applyFrom
    {first second : Nat}
    (sameCells : ∀ place < slots.length,
      left.cell? (first + place) = right.cell? (second + place)) :
    AlikeButColumn
      ((applyFrom dialect first slots record left).1.map
        fun _ => (applyFrom dialect first slots record left).2.1)
      ((applyFrom dialect second slots record right).1.map
        fun _ => (applyFrom dialect second slots record right).2.1) := by
  induction slots generalizing first second record left right with
  | nil => exact .read record
  | cons slot slots inductionHypothesis =>
      have here : left.cell? first = right.cell? second := sameCells 0 (Nat.succ_pos _)
      have behind : ∀ place < slots.length,
          left.cell? (first + 1 + place) = right.cell? (second + 1 + place) := by
        intro place inside
        rw [Nat.add_assoc, Nat.add_assoc, Nat.add_comm 1]
        exact sameCells (place + 1) (Nat.succ_lt_succ inside)
      cases slot with
      | none => exact inductionHypothesis behind
      | some position =>
          cases present : right.cell? second with
          | none =>
              simp only [applyFrom, Row.take, here, present]
              exact inductionHypothesis behind
          | some cell =>
              simp only [applyFrom, Row.take, here, present]
              cases assign dialect record position cell with
              | error cause => exact .refused _ _ _ cause
              | ok next =>
                  apply inductionHypothesis
                  intro place inside
                  rw [left.cell?_clear_of_ne (by omega), right.cell?_clear_of_ne (by omega)]
                  exact behind place inside

theorem materialize_fst (mapper : Mapper) (dialect : Dialect) (row : Row) :
    (mapper.materialize dialect row).1 =
      (mapper.apply dialect (.fresh mapper.shape) row).1.map
        fun _ => (mapper.apply dialect (.fresh mapper.shape) row).2.1 := by
  rcases applied : mapper.apply dialect (.fresh mapper.shape) row with ⟨_ | _, record, left⟩
  · rw [materialize_of_error mapper applied]
    rfl
  · rw [materialize_of_ok mapper applied]
    rfl

theorem materialize_snd (mapper : Mapper) (dialect : Dialect) (row : Row) :
    (mapper.materialize dialect row).2 =
      (mapper.apply dialect (.fresh mapper.shape) row).2.2 := by
  rcases applied : mapper.apply dialect (.fresh mapper.shape) row with ⟨_ | _, record, left⟩
  · rw [materialize_of_error mapper applied]
  · rw [materialize_of_ok mapper applied]

end Mapper

/-! ## Groups -/

namespace ColumnGroup

variable {group : ColumnGroup} {only : Restriction} {dialect : Dialect} {row : Row}

/-- Reading a group leaves the cells outside of its range as they are. -/
theorem cell?_materialize
    {column : Nat}
    (outside : column < group.offset ∨ group.finish ≤ column) :
    ((Mapper.ofGroup group).materialize dialect row).2.cell? column = row.cell? column := by
  rw [Mapper.materialize_snd]
  refine Mapper.cell?_applyFrom (outside.imp_right fun behind => ?_)
  rwa [Mapper.ofGroup, List.length_map]

/-- Other groups that were read before leave the cells of a group as they are. -/
theorem cell?_afterReading
    {others : List ColumnGroup}
    {column : Nat}
    (inside : group.offset ≤ column ∧ column < group.finish)
    (apart : ∀ other ∈ others, other.finish ≤ group.offset ∨ group.finish ≤ other.offset) :
    (row.afterReading dialect others).cell? column = row.cell? column := by
  induction others generalizing row with
  | nil => rfl
  | cons other others inductionHypothesis =>
      obtain ⟨otherApart, othersApart⟩ := List.forall_mem_cons.mp apart
      have outside : column < other.offset ∨ other.finish ≤ column := by omega
      exact (inductionHypothesis othersApart).trans (cell?_materialize outside)

theorem cell?_slice
    {place : Nat}
    (inside : place < group.width) :
    (group.slice only row).cell? place = row.cell? (group.offset + place) := by
  rw [Row.cell?, slice, List.getElem?_take_of_lt inside, List.getElem?_drop]
  rfl

theorem width_slice (behind : group.finish ≤ row.width) :
    (group.slice only row).width = group.width := by
  rw [Row.width, slice, List.length_take, List.length_drop]
  exact Nat.min_eq_left (Nat.le_sub_of_add_le' behind)

/-- A complete group has one column name for each of its columns. -/
theorem IsComplete.length_columns (complete : group.IsComplete only) :
    (group.shape.columns only).length = group.width := by
  rw [Shape.columns, List.length_map, width, complete, (group.shape.forall₂_allowed only).length_eq]

/-- The mapper by name of the slice looks for the fields that the group reads by position. -/
theorem IsComplete.ofColumns_slice
    (complete : group.IsComplete only)
    (own : group.shape.OwnColumns) :
    Mapper.ofColumns group.shape (group.slice only row).columns only =
      ⟨group.shape, 0, group.fields.map some⟩ := by
  rw [Mapper.ofColumns, slice, Mapper.slotsFrom_columns fun _ _ present _ => own _ _ present,
    complete]

end ColumnGroup

namespace Layout

variable {only : Restriction} {shapes : List Shape} {position offset : Nat}
  {group other : ColumnGroup}

theorem shape_mem_of_mem_groupsFrom (member : group ∈ groupsFrom only shapes position offset) :
    group.shape ∈ shapes := by
  have paired := List.mem_map_of_mem (f := fun group => (group.shape, group.position)) member
  rw [zipIdx_groupsFrom] at paired
  exact List.fst_mem_of_mem_zipIdx paired

/-- Different groups have no column in common. -/
theorem apart_of_mem_groupsFrom
    (member : group ∈ groupsFrom only shapes position offset)
    (otherMember : other ∈ groupsFrom only shapes position offset)
    (different : other ≠ group) :
    other.finish ≤ group.offset ∨ group.finish ≤ other.offset := by
  have apart : (groupsFrom only shapes position offset).Pairwise
      fun first second => first.finish ≤ second.offset ∨ second.finish ≤ first.offset :=
    (pairwise_groupsFrom only shapes position offset).imp .inl
  have symmetric : Std.Symm fun first second : ColumnGroup =>
      first.finish ≤ second.offset ∨ second.finish ≤ first.offset :=
    ⟨fun _ _ => Or.symm⟩
  exact apart.forall otherMember member different

/--
Each group of a layout is read from a row that is wide enough, whatever other groups were read
before, like its cells alone by the names of the columns, if these find their own fields: the
record is the same, or the error has the same field and the same cause.
-/
theorem groups_alike_slices
    (dialect : Dialect)
    {layout : Layout}
    {row : Row}
    (composed : ofShapes shapes only = .ok layout)
    (own : ∀ shape ∈ shapes, shape.OwnColumns)
    (wide : layout.width ≤ row.width)
    (member : group ∈ layout.groups)
    (others : List ColumnGroup)
    (areOthers : ∀ other ∈ others, other ∈ layout.groups ∧ other ≠ group) :
    (group.slice only row).width = (group.slice only row).columns.length ∧
    AlikeButColumn
      ((Mapper.ofGroup group).materialize dialect (row.afterReading dialect others)).1
      ((Mapper.ofColumns group.shape (group.slice only row).columns only).materialize dialect
        (group.slice only row)).1 := by
  obtain rfl := ofShapes_eq_ok composed
  have complete : group.IsComplete only := complete_of_mem_groupsFrom member
  have finish_le : group.finish ≤ row.width := by
    refine Nat.le_trans (finish_le_of_mem_groupsFrom member) ?_
    rwa [Nat.zero_add]
  constructor
  · rw [ColumnGroup.width_slice finish_le]
    exact complete.length_columns.symm
  · rw [complete.ofColumns_slice (own group.shape (shape_mem_of_mem_groupsFrom member)),
      Mapper.materialize_fst, Mapper.materialize_fst]
    refine Mapper.alikeButColumn_applyFrom fun place inside => ?_
    rw [Mapper.ofGroup, List.length_map, ← ColumnGroup.width] at inside
    have untouched : (row.afterReading dialect others).cell? (group.offset + place) =
        row.cell? (group.offset + place) :=
      ColumnGroup.cell?_afterReading ⟨Nat.le_add_right _ _, Nat.add_lt_add_left inside _⟩
        fun other isOther => apart_of_mem_groupsFrom member (areOthers other isOther).1
          (areOthers other isOther).2
    exact untouched.trans (by rw [Nat.zero_add, ColumnGroup.cell?_slice inside])

end Layout

namespace Sample

/-- The row of several entities with a key that does not convert. -/
def smudged : Row :=
  ⟨wide.columns, [.integer 0, .text "poems", .text "two", .integer 3, .null]⟩

/-- The entities that stand before and behind that key. -/
def outerGroups : List ColumnGroup :=
  [⟨3, shelves, [0, 1], 3⟩, ⟨0, shelves, [0, 1], 0⟩]

end Sample

namespace Layout

/-- A key is refused alike in the wide row, out of which all other cells were taken, and alone. -/
theorem groups_alike_slices_several :
    ofShapes Sample.several Sample.restricted.only = .ok Sample.composed ∧
      (∀ shape ∈ Sample.several, shape.OwnColumns) ∧
      Sample.composed.width ≤ Sample.smudged.width ∧
      (⟨2, Sample.volumes, [0], 2⟩ : ColumnGroup) ∈ Sample.composed.groups ∧
      (∀ other ∈ Sample.outerGroups,
        other ∈ Sample.composed.groups ∧ other ≠ ⟨2, Sample.volumes, [0], 2⟩) ∧
      (Sample.smudged.afterReading Vendor.sqlite.dialect Sample.outerGroups).cells =
        [.null, .null, .text "two", .null, .null] ∧
      AlikeButColumn
        (.error (.conversion ⟨"t2_id", "id", .unreadable "two" .integer⟩))
        ((Mapper.ofColumns Sample.volumes ["id"] Sample.restricted.only).materialize
          Vendor.sqlite.dialect ⟨["id"], [.text "two"]⟩).1 := by
  have composed : ofShapes Sample.several Sample.restricted.only = .ok Sample.composed := rfl
  have own : ∀ shape ∈ Sample.several, shape.OwnColumns := by decide +kernel
  have wide : Sample.composed.width ≤ Sample.smudged.width := by decide
  have member : (⟨2, Sample.volumes, [0], 2⟩ : ColumnGroup) ∈ Sample.composed.groups := by decide
  have areOthers : ∀ other ∈ Sample.outerGroups,
      other ∈ Sample.composed.groups ∧ other ≠ ⟨2, Sample.volumes, [0], 2⟩ := by decide
  have taken : (Sample.smudged.afterReading Vendor.sqlite.dialect Sample.outerGroups).cells =
      [.null, .null, .text "two", .null, .null] := by decide +kernel
  exact ⟨composed, own, wide, member, areOthers, taken,
    (groups_alike_slices Vendor.sqlite.dialect composed own wide member Sample.outerGroups
      areOthers).2⟩

end Layout
end TypedSql
