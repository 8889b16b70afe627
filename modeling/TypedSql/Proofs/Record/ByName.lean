import TypedSql.Proofs.Record.Group
import TypedSql.Proofs.Session.Drain
import TypedSql.Proofs.Shape.Lookup

/-!
# Reading a selection of one entity back by name

A plain selection lists the columns of the allowed fields, and its rows are read back by the
names of these columns. A name belongs to the first field that has it as its name or as its
column. So every field is fed from its own column exactly where no field before it bears the
name of that column; where one does, its column is read into that other field or into none.
-/

namespace TypedSql

namespace Shape

/-- The columns of the fields that a restriction leaves in. -/
def columns (shape : Shape) (only : Restriction) : List String :=
  (shape.fields.filter only.allows).map Field.column

/-- The columns of a shape alone as a group. -/
def group (shape : Shape) (only : Restriction) : ColumnGroup :=
  ⟨0, shape, shape.allowed only, 0⟩

/-- No two fields have columns with the same name up to case. -/
def DistinctColumns (shape : Shape) : Prop :=
  (shape.fields.map fun field => Ascii.lower field.column).Nodup

instance (shape : Shape) : Decidable shape.DistinctColumns := by
  unfold DistinctColumns
  infer_instance

/-- No allowed field has a column that a field before it bears the name of. -/
def Unshadowed (shape : Shape) (only : Restriction) : Prop :=
  ∀ (position : Nat) field, shape.fields[position]? = some field → only.allows field = true →
    ∀ (earlier : Nat) former, earlier < position → shape.fields[earlier]? = some former →
      Ascii.same field.column former.name = false

variable {shape : Shape} {only : Restriction} {position : Nat} {field : Field}

/-! ## Columns of the allowed fields -/

theorem getElem?_columns
    {place : Nat}
    (listed : (shape.allowed only)[place]? = some position)
    (present : shape.fields[position]? = some field) :
    (shape.columns only)[place]? = some field.column := by
  obtain ⟨inside, rfl⟩ := List.getElem?_eq_some_iff.mp listed
  have inStep := shape.forall₂_allowed only
  have isField : place < (shape.fields.filter only.allows).length := inStep.length_eq ▸ inside
  have held := (inStep.get isField inside).1
  rw [List.get_eq_getElem, List.get_eq_getElem, present] at held
  rw [columns, List.getElem?_map, List.getElem?_eq_getElem isField, ← Option.some.inj held]
  rfl

/-! ## Finding fields by their columns -/

/-- A field is found by its column unless a field before it bears that name. -/
theorem find?_column_iff
    (distinct : shape.DistinctColumns)
    (present : shape.fields[position]? = some field) :
    shape.find? field.column = some position ↔
      ∀ (earlier : Nat) former, earlier < position → shape.fields[earlier]? = some former →
        Ascii.same field.column former.name = false := by
  obtain ⟨inside, rfl⟩ := List.getElem?_eq_some_iff.mp present
  rw [find?_eq_findIdx?, List.findIdx?_eq_some_iff_getElem]
  constructor
  · rintro ⟨_, _, first⟩ earlier former before formerPresent
    obtain ⟨formerInside, rfl⟩ := List.getElem?_eq_some_iff.mp formerPresent
    have unnamed := first earlier before
    rw [Field.isNamed, Bool.or_eq_true, not_or] at unnamed
    exact Bool.eq_false_iff.mpr unnamed.1
  · intro unnamed
    refine ⟨inside, ?_, fun earlier before => ?_⟩
    · rw [Field.isNamed, Ascii.same, Ascii.same, beq_self_eq_true, Bool.or_true]
    · have formerInside := Nat.lt_trans before inside
      rw [Field.isNamed, unnamed earlier _ before (List.getElem?_eq_getElem formerInside),
        Bool.false_or, Ascii.same, beq_iff_eq]
      have different := List.pairwise_iff_getElem.mp (List.pairwise_map.mp distinct)
      exact (different earlier position formerInside inside before).symm

end Shape

/-! ## Mappers -/

namespace Mapper

variable {shape : Shape} {only : Restriction}

/-- A column feeds the allowed field that it finds, unless the field is fed already. -/
theorem slotFor_of_find?
    {fed : List Nat}
    {column : String}
    {position : Nat}
    {field : Field}
    (found : shape.find? column = some position)
    (present : shape.fields[position]? = some field)
    (allows : only.allows field = true)
    (unfed : position ∉ fed) :
    slotFor shape only fed column = some position := by
  simp [slotFor, found, present, allows, unfed]

/-- Columns that find different allowed fields feed them. -/
theorem slotsFrom_of_finds
    {columns : List String}
    {positions fed : List Nat}
    (finds : List.Forall₂
      (fun column position => shape.find? column = some position ∧
        ∃ field, shape.fields[position]? = some field ∧ only.allows field = true)
      columns positions)
    (distinct : positions.Nodup)
    (unfed : ∀ position ∈ positions, position ∉ fed) :
    slotsFrom shape only fed columns = positions.map some := by
  induction finds generalizing fed with
  | nil => rfl
  | @cons column position columns positions first _ inductionHypothesis =>
      obtain ⟨found, field, present, allows⟩ := first
      obtain ⟨once, distinct⟩ := List.nodup_cons.mp distinct
      obtain ⟨firstUnfed, unfed⟩ := List.forall_mem_cons.mp unfed
      have laterUnfed : ∀ later ∈ positions, later ∉ position :: fed := by
        intro later isLater
        rw [List.mem_cons, not_or]
        exact ⟨fun same => once (same ▸ isLater), unfed later isLater⟩
      rw [slotsFrom, slotFor_of_find? found present allows firstUnfed, List.map_cons]
      exact congrArg _ (inductionHypothesis distinct laterUnfed)

/-- The columns of the allowed fields feed these fields if they find them. -/
theorem slotsFrom_columns
    (finds : ∀ (position : Nat) field, shape.fields[position]? = some field →
      only.allows field = true → shape.find? field.column = some position) :
    slotsFrom shape only [] (shape.columns only) = (shape.allowed only).map some := by
  refine slotsFrom_of_finds ?_ (shape.nodup_allowed only) (by simp)
  refine List.forall₂_map_left_iff.mpr ((shape.forall₂_allowed only).imp ?_)
  rintro field position ⟨present, allows⟩
  exact ⟨finds position field present allows, field, present, allows⟩

/-- A column that feeds a field finds it. -/
theorem find?_of_slotsFrom
    {fed : List Nat}
    {columns : List String}
    {place position : Nat}
    {column : String}
    (listed : columns[place]? = some column)
    (feeds : (slotsFrom shape only fed columns)[place]? = some (some position)) :
    shape.find? column = some position := by
  induction columns generalizing fed place with
  | nil => cases listed
  | cons first columns inductionHypothesis =>
      cases place with
      | zero =>
          obtain rfl := Option.some.inj listed
          have slot : slotFor shape only fed first = some position := Option.some.inj feeds
          exact (Option.filter_eq_some_iff.mp slot).1
      | succ place => exact inductionHypothesis listed feeds

/--
The mapper by name of the columns of the allowed fields feeds each of these fields from its
own column exactly where none is shadowed.
-/
theorem ofColumns_eq_ofGroup_iff (distinct : shape.DistinctColumns) :
    ofColumns shape (shape.columns only) only = ofGroup (shape.group only) ↔
      shape.Unshadowed only := by
  have sameSlots : ofColumns shape (shape.columns only) only = ofGroup (shape.group only) ↔
      slotsFrom shape only [] (shape.columns only) = (shape.allowed only).map some := by
    simp [ofColumns, ofGroup, Shape.group]
  rw [sameSlots]
  constructor
  · intro same position field present allows
    obtain ⟨place, listed⟩ :=
      List.getElem?_of_mem (Shape.mem_allowed.mpr ⟨field, present, allows⟩)
    rw [← Shape.find?_column_iff distinct present]
    have feeds : (slotsFrom shape only [] (shape.columns only))[place]? = some (some position) := by
      rw [same, List.getElem?_map, listed]
      rfl
    exact find?_of_slotsFrom (Shape.getElem?_columns listed present) feeds
  · intro unshadowed
    refine slotsFrom_columns fun position field present allows => ?_
    exact (Shape.find?_column_iff distinct present).mpr
      (unshadowed position field present allows)

end Mapper

/-! ## Rows of a plain selection -/

namespace Shape

variable {shape : Shape} {only : Restriction} {row : Row}

/-- Each column of a row is named by the field that is read from it. -/
theorem columnName?_of_reads
    {column : Nat}
    {field : Field}
    (labelled : row.columns = shape.columns only)
    (reads : (shape.group only).Reads column field) :
    row.columnName? column = some field.column := by
  obtain ⟨place, position, listed, present, rfl⟩ := reads
  rw [Row.columnName?, labelled, group, Nat.zero_add]
  exact getElem?_columns listed present

theorem fedBy_group
    {cells : String → Value}
    (labelled : row.columns = shape.columns only)
    (filled : row.cells = row.columns.map cells) :
    (shape.group only).FedBy cells row := by
  intro column field reads
  have named : row.columns[column]? = some field.column := columnName?_of_reads labelled reads
  rw [Row.cell?, filled, List.getElem?_map, named]
  rfl

end Shape

namespace Database

/--
A plain selection of a table whose columns are distinct lists the columns of the allowed
fields. Its mapper feeds each of them from its own column exactly where no field before it
bears the name of that column, and then a row of cells of these columns gives a record that
is filled from them, or the first of them that its field refuses is reported.
-/
theorem readRecord_own_columns
    (database : Database)
    (query : Query)
    (distinct : query.root.DistinctColumns)
    (nonempty : ∃ field ∈ query.root.fields, query.only.allows field = true) :
    query.defaultProjection =
      .commas ((query.root.columns query.only).map (Fragment.qualified query.root.table)) ∧
    (Mapper.ofColumns query.root (query.root.columns query.only) query.only =
        Mapper.ofGroup (query.root.group query.only) ↔
      query.root.Unshadowed query.only) ∧
    (query.root.Unshadowed query.only →
      ∀ (cells : String → Value) (row : Row),
        row.columns = query.root.columns query.only → row.cells = row.columns.map cells →
        (∃ record,
          database.readRecord query.root query.only row = .ok record ∧
          record.shape = query.root ∧
          record.FilledFrom database.dialect query.only cells) ∨
        ∃ column field cause,
          FirstRefusal database.dialect (fun _ => cells) [query.root.group query.only]
            column field cause ∧
          database.readRecord query.root query.only row =
            .error (.conversion ⟨field.column, field.name, cause⟩)) := by
  refine ⟨?_, Mapper.ofColumns_eq_ofGroup_iff distinct, ?_⟩
  · obtain ⟨field, member, allows⟩ := nonempty
    have listed : query.rootColumns =
        (query.root.columns query.only).map (Fragment.qualified query.root.table) := by
      rw [Query.rootColumns, Shape.columns, List.map_map]
      rfl
    have inhabited : query.rootColumns.isEmpty = false :=
      List.isEmpty_eq_false_iff.mpr
        (List.ne_nil_of_mem (List.mem_map_of_mem (List.mem_filter.mpr ⟨member, allows⟩)))
    rw [Query.defaultProjection, inhabited, ← listed]
    rfl
  · intro unshadowed cells row labelled filled
    have fed := Shape.fedBy_group labelled filled
    have mapper := (Mapper.ofColumns_eq_ofGroup_iff distinct).mpr unshadowed
    have read : database.readRecord query.root query.only row =
        ((Mapper.ofGroup (query.root.group query.only)).materialize database.dialect row).1 := by
      rw [readRecord, labelled, mapper, Mapper.read]
    rw [read]
    have complete : (query.root.group query.only).IsComplete query.only := rfl
    rcases ColumnGroup.materialize_cases database.dialect (fun _ => cells) complete fed with
      ⟨record, left, materialized, sameShape, holds, _⟩ |
      ⟨column, field, cause, refusal, materialized⟩
    · left
      rw [materialized]
      exact ⟨record, rfl, sameShape, holds⟩
    · right
      obtain ⟨_, isGroup, reads, _⟩ := refusal.refused
      obtain rfl := List.mem_singleton.mp isGroup
      rw [materialized, conversionError, Shape.columnName?_of_reads labelled reads]
      exact ⟨column, field, cause, refusal, rfl⟩

end Database

namespace Sample

/-- A field that bears the name of a column before it, and one that is left out. -/
def renamed : Shape :=
  ⟨"parts", [⟨"code", "id", ⟨.integer .signed64, false⟩⟩,
    ⟨"ID", "number", ⟨.integer .signed8, false⟩⟩, ⟨"note", "note", ⟨.text, true⟩⟩]⟩

/-- The query for its rows. -/
def parts : Query := (database.source renamed).restrict ["Code", "number"]

/-- Cells the second of which is too large for its field. -/
def measured (column : String) : Value :=
  if column = "id" then .integer 7 else .integer 300

/-- The row of the cells. -/
def measurement : Row := ⟨["id", "number"], [.integer 7, .integer 300]⟩

end Sample

namespace Database

/-- A field is refused the cell of its own column, although another column bears its name. -/
theorem readRecord_own_columns_parts :
    Sample.renamed.DistinctColumns ∧
      (∃ field ∈ Sample.renamed.fields, Sample.parts.only.allows field = true) ∧
      Sample.renamed.Unshadowed Sample.parts.only ∧
      Sample.measurement.columns = Sample.renamed.columns Sample.parts.only ∧
      Sample.measurement.cells = Sample.measurement.columns.map Sample.measured ∧
      ∃ column field cause,
        FirstRefusal Sample.database.dialect (fun _ => Sample.measured)
          [Sample.renamed.group Sample.parts.only] column field cause ∧
        Sample.database.readRecord Sample.renamed Sample.parts.only Sample.measurement =
          .error (.conversion ⟨field.column, field.name, cause⟩) := by
  have distinct : Sample.renamed.DistinctColumns := by decide
  have nonempty : ∃ field ∈ Sample.renamed.fields, Sample.parts.only.allows field = true := by
    decide
  obtain ⟨_, mapper, rows⟩ :=
    readRecord_own_columns Sample.database Sample.parts distinct nonempty
  have unshadowed : Sample.renamed.Unshadowed Sample.parts.only := mapper.mp (by decide)
  have labelled : Sample.measurement.columns = Sample.renamed.columns Sample.parts.only := rfl
  have filled : Sample.measurement.cells =
      Sample.measurement.columns.map Sample.measured := by decide
  refine ⟨distinct, nonempty, unshadowed, labelled, filled, ?_⟩
  rcases rows unshadowed Sample.measured Sample.measurement labelled filled with
    ⟨record, read, _⟩ | refused
  · cases read
  · exact refused

end Database

namespace Sample

/-- Fields each of which bears the name of the column behind it. -/
def shifted : Shape :=
  ⟨"parts", [⟨"code", "id", ⟨.integer .signed64, false⟩⟩,
    ⟨"label", "code", ⟨.integer .signed64, false⟩⟩,
    ⟨"rank", "label", ⟨.integer .signed64, false⟩⟩]⟩

/-- What their columns hold. -/
def stock (column : String) : Value :=
  if column = "id" then .integer 1 else if column = "code" then .integer 2 else .integer 3

end Sample

namespace Database

/-- Shadowed fields are not filled from their own columns, and nothing is reported. -/
theorem readRecord_shadowed :
    Sample.shifted.DistinctColumns ∧
      (Sample.database.source Sample.shifted).defaultProjection =
        .commas (["id", "code", "label"].map (Fragment.qualified "parts")) ∧
      Sample.database.readRecord Sample.shifted none
          ⟨["id", "code", "label"], ["id", "code", "label"].map Sample.stock⟩ =
        .ok ⟨Sample.shifted, [.integer 1, .integer 3, .integer 0]⟩ ∧
      ¬ Record.FilledFrom Sample.database.dialect none Sample.stock
        ⟨Sample.shifted, [.integer 1, .integer 3, .integer 0]⟩ := by
  refine ⟨by decide, by decide, rfl, ?_⟩
  intro filled
  obtain ⟨value, held, stored⟩ := filled.filled 1 _ rfl rfl
  cases stored
  cases held

end Database
end TypedSql
