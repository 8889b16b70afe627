import TypedSql.Database
import TypedSql.Proofs.Query.Closed
import TypedSql.Proofs.Record.Group
import TypedSql.Proofs.Session.Drain

/-!
# Rows of several entities

The groups of a layout stand next to each other and cover all columns, and the projection
lists exactly their columns, so that reading one group after the other takes every cell to
the field that it was selected for, whatever the shapes, however often each of them stands
in the list, and whichever fields the restriction leaves in. A row that is too short for the
layout gives no tuple.
-/

namespace TypedSql

/-! ## Groups -/

namespace ColumnGroup

variable {group : ColumnGroup} {only : Restriction} {column : Nat} {field : Field}

/-- A complete group has a field for each of its columns. -/
theorem IsComplete.isSome_field
    (complete : group.IsComplete only)
    {position : Nat}
    (listed : position ∈ group.fields) :
    ((group.shape.fields[position]?).map group.item).isSome = true := by
  rw [complete] at listed
  obtain ⟨field, present, _⟩ := Shape.mem_allowed.mp listed
  rw [present]
  rfl

/-- The items of a complete group are those of its fields, in order. -/
theorem IsComplete.map_some_items (complete : group.IsComplete only) :
    group.items.map some =
      group.fields.map fun position => (group.shape.fields[position]?).map group.item := by
  have present : ∀ position ∈ group.fields,
      ((group.shape.fields[position]?).map group.item).isSome = true :=
    fun _ => complete.isSome_field
  unfold items
  generalize group.fields = fields at present
  induction fields with
  | nil => rfl
  | cons position fields inductionHypothesis =>
      obtain ⟨first, others⟩ := List.forall_mem_cons.mp present
      obtain ⟨item, found⟩ := Option.isSome_iff_exists.mp first
      have here := List.filterMap_cons_some
        (f := fun position => (group.shape.fields[position]?).map group.item) (l := fields) found
      rw [here, List.map_cons, List.map_cons, found, inductionHypothesis others]

theorem IsComplete.length_items (complete : group.IsComplete only) :
    group.items.length = group.width := by
  simpa [width] using congrArg List.length complete.map_some_items

theorem IsComplete.getElem?_items
    {place : Nat}
    (complete : group.IsComplete only)
    (reads : group.Reads (group.offset + place) field) :
    group.items[place]? = some (group.item field) := by
  obtain ⟨same, position, listed, present, samePlace⟩ := reads
  obtain rfl := Nat.add_left_cancel samePlace
  have found := congrArg (·[place]?) complete.map_some_items
  simpa [listed, present] using found

/-- A column of a complete group is read into an allowed field. -/
theorem IsComplete.allows
    (complete : group.IsComplete only)
    (reads : group.Reads column field) :
    ∃ position : Nat, group.shape.fields[position]? = some field ∧ only.allows field = true := by
  obtain ⟨place, position, listed, present, _⟩ := reads
  have allowed : position ∈ group.shape.allowed only := complete ▸ List.mem_of_getElem? listed
  obtain ⟨same, samePresent, allows⟩ := Shape.mem_allowed.mp allowed
  rw [present] at samePresent
  cases samePresent
  exact ⟨position, present, allows⟩

end ColumnGroup

/-- Where a record is filled from cells, all of them convert. -/
theorem Record.FilledFrom.converts
    {dialect : Dialect}
    {only : Restriction}
    {cells : String → Value}
    {record : Record}
    {group : ColumnGroup}
    {column : Nat}
    {field : Field}
    (filled : record.FilledFrom dialect only cells)
    (sameShape : record.shape = group.shape)
    (complete : group.IsComplete only)
    (reads : group.Reads column field) :
    ∃ value, field.hold dialect (cells field.column) = .ok value := by
  obtain ⟨position, present, allows⟩ := complete.allows reads
  obtain ⟨value, held, _⟩ := filled.filled position field (sameShape ▸ present) allows
  exact ⟨value, held⟩

namespace FirstRefusal

variable {dialect : Dialect} {cells : Nat → String → Value} {group : ColumnGroup}
  {others : List ColumnGroup} {column : Nat} {field : Field} {cause : ValueError}

/-- Groups behind the one with the refused cell do not matter. -/
theorem append_behind
    (first : FirstRefusal dialect cells [group] column field cause)
    (behind : ∀ other ∈ others, group.finish ≤ other.offset) :
    FirstRefusal dialect cells (group :: others) column field cause where
  refused := by
    obtain ⟨same, member, refused⟩ := first.refused
    exact ⟨same, List.mem_append_left others member, refused⟩
  earlier := by
    intro other member before former reads earlier
    rcases List.mem_cons.mp member with rfl | inOthers
    · exact first.earlier other (List.mem_singleton_self other) before former reads earlier
    · obtain ⟨same, isGroup, refused, _⟩ := first.refused
      obtain rfl := List.mem_singleton.mp isGroup
      have := behind other inOthers
      have := reads.offset_le
      have := refused.lt_finish
      omega

/-- A group whose cells all convert may stand before the others. -/
theorem cons
    (first : FirstRefusal dialect cells others column field cause)
    (converts : ∀ before former, group.Reads before former →
      ∃ value, former.hold dialect (cells group.position former.column) = .ok value) :
    FirstRefusal dialect cells (group :: others) column field cause where
  refused := by
    obtain ⟨other, member, refused⟩ := first.refused
    exact ⟨other, List.mem_cons_of_mem group member, refused⟩
  earlier := by
    intro other member before former reads earlier
    rcases List.mem_cons.mp member with rfl | inOthers
    · exact converts before former reads
    · exact first.earlier other inOthers before former reads earlier

end FirstRefusal

/-! ## Tuples -/

section Tuples

variable {dialect : Dialect} {mapper : Mapper} {mappers : List Mapper} {row left : Row}
  {total count position : Nat}

theorem readTupleFrom_cons_of_ok
    {record : Record}
    (read : mapper.materialize dialect row = (.ok record, left)) :
    (readTupleFrom dialect total (count + 1) position (mapper :: mappers) row).1 =
      (readTupleFrom dialect total count (position + 1) mappers left).1.map (record :: ·) := by
  rw [readTupleFrom, read]
  dsimp only
  split <;> rename_i others <;> rw [others] <;> rfl

theorem readTupleFrom_cons_of_error
    {error : Error}
    (read : (mapper.materialize dialect row).1 = .error error) :
    (readTupleFrom dialect total (count + 1) position (mapper :: mappers) row).1 =
      .error error := by
  rw [readTupleFrom]
  split
  · rename_i found
    rw [found] at read
    exact congrArg Except.error (Except.error.inj read)
  · rename_i found
    rw [found] at read
    cases read

end Tuples

/-! ## Layouts -/

namespace Layout

variable {only : Restriction} {shapes : List Shape} {position offset : Nat}
  {group : ColumnGroup}

theorem complete_of_mem_groupsFrom
    (member : group ∈ groupsFrom only shapes position offset) :
    group.IsComplete only := by
  induction shapes generalizing position offset with
  | nil => cases member
  | cons shape shapes inductionHypothesis =>
      rcases List.mem_cons.mp member with rfl | later
      · rfl
      · exact inductionHypothesis later

theorem offset_le_of_mem_groupsFrom
    (member : group ∈ groupsFrom only shapes position offset) :
    offset ≤ group.offset := by
  induction shapes generalizing position offset with
  | nil => cases member
  | cons shape shapes inductionHypothesis =>
      rcases List.mem_cons.mp member with rfl | later
      · exact Nat.le_refl offset
      · exact Nat.le_of_add_right_le (inductionHypothesis later)

theorem finish_le_of_mem_groupsFrom
    (member : group ∈ groupsFrom only shapes position offset) :
    group.finish ≤ offset + widthOf only shapes := by
  induction shapes generalizing position offset with
  | nil => cases member
  | cons shape shapes inductionHypothesis =>
      rw [widthOf, ← Nat.add_assoc]
      rcases List.mem_cons.mp member with rfl | later
      · exact Nat.le_add_right _ _
      · exact inductionHypothesis later

/-- Each group ends before the next one starts. -/
theorem pairwise_groupsFrom (only : Restriction) (shapes : List Shape) (position offset : Nat) :
    (groupsFrom only shapes position offset).Pairwise (·.finish ≤ ·.offset) := by
  induction shapes generalizing position offset with
  | nil => exact .nil
  | cons shape shapes inductionHypothesis =>
      exact .cons (fun _ later => offset_le_of_mem_groupsFrom later)
        (inductionHypothesis (position + 1) _)

/-- There is one group for each shape, in order. -/
theorem zipIdx_groupsFrom (only : Restriction) (shapes : List Shape) (position offset : Nat) :
    (groupsFrom only shapes position offset).map (fun group => (group.shape, group.position)) =
      shapes.zipIdx position := by
  induction shapes generalizing position offset with
  | nil => rfl
  | cons shape shapes inductionHypothesis =>
      rw [groupsFrom, List.map_cons, inductionHypothesis, List.zipIdx_cons]

/-- The groups stand next to each other. -/
theorem columns_groupsFrom (only : Restriction) (shapes : List Shape) (position offset : Nat) :
    (groupsFrom only shapes position offset).flatMap
        (fun group => List.range' group.offset group.width) =
      List.range' offset (widthOf only shapes) := by
  induction shapes generalizing position offset with
  | nil => rfl
  | cons shape shapes inductionHypothesis =>
      rw [groupsFrom, List.flatMap_cons, inductionHypothesis, widthOf]
      exact List.range'_append_1

theorem length_items_groupsFrom
    (only : Restriction)
    (shapes : List Shape)
    (position offset : Nat) :
    ((groupsFrom only shapes position offset).flatMap ColumnGroup.items).length =
      widthOf only shapes := by
  induction shapes generalizing position offset with
  | nil => rfl
  | cons shape shapes inductionHypothesis =>
      have complete : (⟨position, shape, shape.allowed only, offset⟩ : ColumnGroup).IsComplete
          only := rfl
      rw [groupsFrom, List.flatMap_cons, List.length_append, inductionHypothesis, widthOf,
        complete.length_items]
      rfl

/-- Each column that is read is selected, under the name that its group gives it. -/
theorem getElem?_items_groupsFrom
    {place : Nat}
    {field : Field}
    (member : group ∈ groupsFrom only shapes position offset)
    (reads : group.Reads (offset + place) field) :
    ((groupsFrom only shapes position offset).flatMap ColumnGroup.items)[place]? =
      some (group.item field) := by
  induction shapes generalizing position offset place with
  | nil => cases member
  | cons shape shapes inductionHypothesis =>
      let first : ColumnGroup := ⟨position, shape, shape.allowed only, offset⟩
      have complete : first.IsComplete only := rfl
      have wide : first.items.length = (shape.allowed only).length := complete.length_items
      rw [groupsFrom, List.flatMap_cons]
      rcases List.mem_cons.mp member with rfl | later
      · have inside : place < (shape.allowed only).length :=
          Nat.lt_of_add_lt_add_left reads.lt_finish
        rw [List.getElem?_append_left (wide ▸ inside)]
        exact complete.getElem?_items reads
      · have behind := Nat.le_trans (offset_le_of_mem_groupsFrom later) reads.offset_le
        obtain ⟨rest, rfl⟩ := Nat.exists_eq_add_of_le (Nat.le_of_add_le_add_left behind)
        rw [List.getElem?_append_right (wide ▸ Nat.le_add_right _ _), wide,
          Nat.add_sub_cancel_left]
        rw [← Nat.add_assoc] at reads
        exact inductionHypothesis later reads

variable {dialect : Dialect} {cells : Nat → String → Value} {row : Row}

/--
Groups whose cells are those of their fields' columns give one filled record each, or the
first cell that is refused is reported.
-/
theorem readTupleFrom_cases
    (total place : Nat)
    (fed : ∀ group ∈ groupsFrom only shapes position offset,
      group.FedBy (cells group.position) row) :
    (∃ records,
      (readTupleFrom dialect total shapes.length place
        ((groupsFrom only shapes position offset).map Mapper.ofGroup) row).1 = .ok records ∧
      List.Forall₂
        (fun group record => record.shape = group.shape ∧
          record.FilledFrom dialect only (cells group.position))
        (groupsFrom only shapes position offset) records) ∨
    ∃ column field cause,
      FirstRefusal dialect cells (groupsFrom only shapes position offset) column field cause ∧
      (readTupleFrom dialect total shapes.length place
        ((groupsFrom only shapes position offset).map Mapper.ofGroup) row).1 =
        .error (conversionError row column field.name cause) := by
  induction shapes generalizing position offset row place with
  | nil => exact .inl ⟨[], rfl, .nil⟩
  | cons shape shapes inductionHypothesis =>
      let first : ColumnGroup := ⟨position, shape, shape.allowed only, offset⟩
      have complete : first.IsComplete only := rfl
      obtain ⟨firstFed, othersFed⟩ := List.forall_mem_cons.mp fed
      rw [groupsFrom, List.map_cons, List.length_cons]
      rcases first.materialize_cases dialect cells complete firstFed with
        ⟨record, left, read, sameShape, filled, sameColumns, behind⟩ |
        ⟨column, field, cause, refusal, read⟩
      · rw [readTupleFrom_cons_of_ok read]
        -- What the first group takes out of the row is before all other groups.
        have leftFed : ∀ group ∈ groupsFrom only shapes (position + 1) first.finish,
            group.FedBy (cells group.position) left := by
          intro group member
          refine (othersFed group member).congr fun column inGroup => ?_
          exact behind column (Nat.le_trans (offset_le_of_mem_groupsFrom member) inGroup)
        rcases inductionHypothesis (place + 1) leftFed with
          ⟨records, readOthers, filledOthers⟩ | ⟨column, field, cause, refusal, readOthers⟩
        · left
          exact ⟨record :: records, congrArg (Except.map (record :: ·)) readOthers,
            .cons ⟨sameShape, filled⟩ filledOthers⟩
        · right
          refine ⟨column, field, cause, ?_, ?_⟩
          · exact refusal.cons fun before former reads =>
              filled.converts sameShape complete reads
          · have sameError := Mapper.conversionError_congr sameColumns column field.name cause
            rw [← sameError]
            exact congrArg (Except.map (record :: ·)) readOthers
      · right
        refine ⟨column, field, cause, ?_, ?_⟩
        · exact refusal.append_behind fun other member => offset_le_of_mem_groupsFrom member
        · exact readTupleFrom_cons_of_error read

theorem ofShapes_eq_ok
    {layout : Layout}
    (composed : ofShapes shapes only = .ok layout) :
    layout = ⟨groupsFrom only shapes 0 0, widthOf only shapes⟩ := by
  unfold ofShapes at composed
  split at composed
  · cases composed
  · split at composed
    · cases composed
    · exact (Except.ok.inj composed).symm

/-- Shapes that leave no column have no layout. -/
theorem width_ne_zero_of_ofShapes
    {layout : Layout}
    (composed : ofShapes shapes only = .ok layout) :
    widthOf only shapes ≠ 0 := by
  intro narrow
  unfold ofShapes at composed
  rw [if_pos narrow] at composed
  split at composed <;> cases composed

end Layout

namespace Database

variable {database : Database} {query : Query} {shapes : List Shape} {statement : Statement}
  {layout : Layout} {session : Session}

/-- A row that is too short for the layout is refused. -/
theorem tupleStep_of_short
    {row : Row}
    (short : row.width < layout.width)
    (arity : Nat)
    (tuples : List (List Record)) :
    database.tupleStep layout arity tuples row =
      .error (.execution (.shortRow row.width layout.width)) :=
  if_pos short

theorem selectMulti_of_ok
    (compiled : query.toMultiSelect shapes = .ok (statement, layout)) :
    database.selectMulti query shapes session =
      database.drain statement none (database.tupleStep layout shapes.length) [] session := by
  unfold selectMulti
  rw [compiled]
  rfl

/-- A selection of several entities whose cursor hands out a row that is too short fails. -/
theorem selectMulti_of_short
    {cursor : Cursor}
    {opened : Session}
    (compiled : query.toMultiSelect shapes = .ok (statement, layout))
    (returned : session.openCursor database.logged statement = (.ok cursor, opened)) :
    ∃ seen last noticed fed,
      Session.Fed cursor.columns cursor.fetches none
        (database.tupleStep layout shapes.length) [] opened seen last noticed fed ∧
      Session.Closed cursor fed (database.selectMulti query shapes session) ∧
      ∀ row ∈ seen, row.width < layout.width →
        (database.selectMulti query shapes session).1 =
          .error (.execution (.shortRow row.width layout.width)) := by
  obtain ⟨seen, last, noticed, fed⟩ :=
    Session.feedRows_fed cursor.columns cursor.fetches none
      (database.tupleStep layout shapes.length) [] opened
  rw [selectMulti_of_ok compiled]
  have closed : Session.Closed cursor _
      (database.drain statement none (database.tupleStep layout shapes.length) [] session) :=
    Session.drain_of_ok returned
  refine ⟨seen, last, noticed, _, fed, closed, fun row member short => ?_⟩
  have refused := fed.ending.error_of_mem (tupleStep_of_short short shapes.length) member
  exact (closed.failed _ refused).1

end Database

namespace Layout

/--
The groups of a layout stand for the shapes in order, list the allowed fields of each once
in the order of the shape, and cut the columns into ranges that stand next to each other;
the projection names each column after its group. A row whose cells are those of the
selected columns is read into one record for each shape, every allowed field filled from its
own column and every other one fresh, or the first cell that its field refuses is reported.
A selection that is handed a shorter row fails.
-/
theorem columns_reach_fields
    {shapes : List Shape}
    {only : Restriction}
    {layout : Layout}
    (composed : ofShapes shapes only = .ok layout) :
    layout.groups.map (fun group => (group.shape, group.position)) = shapes.zipIdx ∧
    (∀ group ∈ layout.groups,
      group.fields.Pairwise (· < ·) ∧
      ∀ position, position ∈ group.fields ↔
        ∃ field, group.shape.fields[position]? = some field ∧ only.allows field = true) ∧
    layout.groups.flatMap (fun group => List.range' group.offset group.width) =
      List.range layout.width ∧
    (∃ items, layout.projection = .commas items ∧ items.length = layout.width ∧
      ∀ group ∈ layout.groups, ∀ column field, group.Reads column field →
        items[column]? = some ((Fragment.qualified group.shape.table field.column).named
          ("t" ++ toString group.position ++ "_" ++ field.column))) ∧
    (∀ dialect cells row,
      (∀ group ∈ layout.groups, group.FedBy (cells group.position) row) →
      (∃ records,
        (readTuple dialect (Mapper.ofLayout layout) shapes.length row).1 = .ok records ∧
        List.Forall₂
          (fun group record => record.shape = group.shape ∧
            record.FilledFrom dialect only (cells group.position))
          layout.groups records) ∨
      ∃ column field cause,
        FirstRefusal dialect cells layout.groups column field cause ∧
        (readTuple dialect (Mapper.ofLayout layout) shapes.length row).1 =
          .error (conversionError row column field.name cause)) ∧
    (∀ (database : Database) (query : Query) (statement : Statement) (session opened : Session)
        (cursor : Cursor),
      query.toMultiSelect shapes = .ok (statement, layout) →
      session.openCursor database.logged statement = (.ok cursor, opened) →
      ∃ seen last noticed fed,
        Session.Fed cursor.columns cursor.fetches none
          (database.tupleStep layout shapes.length) [] opened seen last noticed fed ∧
        Session.Closed cursor fed (database.selectMulti query shapes session) ∧
        ∀ row ∈ seen, row.width < layout.width →
          (database.selectMulti query shapes session).1 =
            .error (.execution (.shortRow row.width layout.width))) := by
  obtain rfl := ofShapes_eq_ok composed
  refine ⟨zipIdx_groupsFrom only shapes 0 0, ?_, ?_, ?_, ?_, ?_⟩
  · intro group member
    have complete : group.fields = group.shape.allowed only := complete_of_mem_groupsFrom member
    rw [complete]
    exact ⟨group.shape.pairwise_allowed only, fun position => Shape.mem_allowed⟩
  · rw [columns_groupsFrom, List.range_eq_range']
  · refine ⟨_, rfl, length_items_groupsFrom only shapes 0 0, ?_⟩
    intro group member column field reads
    exact getElem?_items_groupsFrom member (by rwa [Nat.zero_add])
  · intro dialect cells row fed
    exact readTupleFrom_cases _ _ fed
  · intro database query statement session opened cursor compiled returned
    exact Database.selectMulti_of_short compiled returned

end Layout

namespace Sample

/-- A table in two places, and one that the restriction leaves no field of. -/
def several : List Shape := [shelves, loans, volumes, shelves]

/-- The query for them. -/
def restricted : Query := lent.restrict ["id", "LABEL"]

/-- Their layout. -/
def composed : Layout :=
  ⟨[⟨0, shelves, [0, 1], 0⟩, ⟨1, loans, [], 2⟩, ⟨2, volumes, [0], 2⟩, ⟨3, shelves, [0, 1], 3⟩], 5⟩

/-- What the tables hold. -/
def cells (position : Nat) (column : String) : Value :=
  if column = "id" then .integer (Int64.ofNat position)
  else if position = 0 then .text "poems"
  else .null

/-- The row of what they hold. -/
def wide : Row :=
  ⟨["t0_id", "t0_Label", "t2_id", "t3_id", "t3_Label"],
    [.integer 0, .text "poems", .integer 2, .integer 3, .null]⟩

/-- The records of the row. -/
def tuple : List Record :=
  [⟨shelves, [.integer 0, .text "poems"]⟩, ⟨loans, [.integer 0]⟩,
    ⟨volumes, [.integer 2, .integer 0]⟩, ⟨shelves, [.integer 3, .null]⟩]

/-- A cursor that hands out a row that is too short. -/
def narrow : Cursor := ⟨["t0_id"], [.row [.integer 0] false], false, none⟩

/-- The session after that cursor was returned. -/
def narrowed : Session :=
  ⟨false, [], [.open ((restricted.selectFragmentOf composed.projection).build
    Vendor.sqlite.dialect)], []⟩

end Sample

namespace Layout

/--
One of four groups is empty and two read the same table; each record is filled from its own
group. A row of one cell gives no tuple.
-/
theorem columns_reach_fields_several :
    ofShapes Sample.several Sample.restricted.only = .ok Sample.composed ∧
      (∀ group ∈ Sample.composed.groups, group.FedBy (Sample.cells group.position) Sample.wide) ∧
      List.Forall₂
        (fun group record => record.shape = group.shape ∧
          record.FilledFrom Vendor.sqlite.dialect Sample.restricted.only
            (Sample.cells group.position))
        Sample.composed.groups Sample.tuple ∧
      Sample.restricted.toMultiSelect Sample.several =
        .ok ((Sample.restricted.selectFragmentOf Sample.composed.projection).build
          Vendor.sqlite.dialect, Sample.composed) ∧
      (Sample.session Sample.narrow).openCursor false
          ((Sample.restricted.selectFragmentOf Sample.composed.projection).build
            Vendor.sqlite.dialect) =
        (.ok Sample.narrow, Sample.narrowed) ∧
      ∃ seen last noticed fed,
        Session.Fed Sample.narrow.columns Sample.narrow.fetches none
          ((Database.mk Vendor.sqlite.dialect false).tupleStep Sample.composed 4) []
          Sample.narrowed seen last noticed fed ∧
        ∀ row ∈ seen, row.width < 5 →
          ((Database.mk Vendor.sqlite.dialect false).selectMulti Sample.restricted Sample.several
            (Sample.session Sample.narrow)).1 = .error (.execution (.shortRow row.width 5)) := by
  have composed : ofShapes Sample.several Sample.restricted.only = .ok Sample.composed := rfl
  have fed : ∀ group ∈ Sample.composed.groups,
      group.FedBy (Sample.cells group.position) Sample.wide := by decide
  have read : (readTuple Vendor.sqlite.dialect (Mapper.ofLayout Sample.composed)
      Sample.several.length Sample.wide).1 = .ok Sample.tuple := rfl
  have compiled : Sample.restricted.toMultiSelect Sample.several =
      .ok ((Sample.restricted.selectFragmentOf Sample.composed.projection).build
        Vendor.sqlite.dialect, Sample.composed) := rfl
  have returned : (Sample.session Sample.narrow).openCursor false
      ((Sample.restricted.selectFragmentOf Sample.composed.projection).build
        Vendor.sqlite.dialect) = (.ok Sample.narrow, Sample.narrowed) := rfl
  obtain ⟨_, _, _, _, tuples, runs⟩ := columns_reach_fields composed
  refine ⟨composed, fed, ?_, compiled, returned, ?_⟩
  · rcases tuples Vendor.sqlite.dialect Sample.cells Sample.wide fed with
      ⟨records, readRecords, filled⟩ | ⟨column, field, cause, _, refused⟩
    · rw [read] at readRecords
      cases readRecords
      exact filled
    · rw [read] at refused
      cases refused
  · obtain ⟨seen, last, noticed, done, hasFed, _, short⟩ :=
      runs ⟨Vendor.sqlite.dialect, false⟩ Sample.restricted _ _ _ _ compiled returned
    exact ⟨seen, last, noticed, done, hasFed, short⟩

end Layout
end TypedSql
